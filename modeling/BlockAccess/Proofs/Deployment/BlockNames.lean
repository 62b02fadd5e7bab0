import BlockAccess.Proofs.Deployment.Bridge
import BlockAccess.Proofs.Json.Numbers

/-!
# The names of blocks

A refusal for the wrong block gives the texts of two blocks, and whoever reads it has to be able to
tell the blocks by them. In the text of a block the name of its pool is not quoted, and it may be any
string, also one with colons in it, or one that looks like the text of another block. What can be
relied on is the other end: behind the last colon there is nothing but `blk_` and the decimal id,
and where there is no colon the pool has no name. So a text is taken apart from behind.

## Main results

* `Block.text_injective` — a text is that of one block only.
* `block_names_unambiguous` — a refusal for the wrong block names two different blocks.
-/

namespace BlockAccess

/-! ## Taking a text apart -/

namespace Block

variable {a b : Block}

/-- A whole determines what stands behind its last separator, and what stands before. -/
private theorem append_separator_inj {p q s t : List Char} {c : Char} (hs : c ∉ s) (ht : c ∉ t)
    (h : p ++ c :: s = q ++ c :: t) : p = q ∧ s = t := by
  -- If one part in front were the longer one, the end of the other would hold a separator.
  rcases List.append_eq_append_iff.1 h with ⟨more, hq, hrest⟩ | ⟨more, hp, hrest⟩
  · cases more with
    | nil => exact ⟨by simpa using hq.symm, by simpa using hrest⟩
    | cons first more =>
      obtain ⟨-, rfl⟩ := List.cons_eq_cons.1 hrest
      exact absurd (List.mem_append_right more List.mem_cons_self) hs
  · cases more with
    | nil => exact ⟨by simpa using hp, by simpa using hrest.symm⟩
    | cons first more =>
      obtain ⟨-, rfl⟩ := List.cons_eq_cons.1 hrest
      exact absurd (List.mem_append_right more List.mem_cons_self) ht

/-- What the text of a block says of it besides the pool. -/
def label (b : Block) : List Char := "blk_".toList ++ Json.intChars b.id.toInt

theorem toList_text (b : Block) :
    b.text.toList = if b.pool = "" then b.label else b.pool.toList ++ ':' :: b.label := by
  unfold text
  split
  · rw [String.toList_append, Json.toList_toString_int, label]
  · rw [String.toList_append, String.toList_append, Json.toList_toString_int, List.append_assoc]
    rfl

theorem colon_not_mem_label (b : Block) : ':' ∉ b.label := by
  intro hmem
  rcases List.mem_append.1 hmem with hmark | hid
  · exact absurd hmark (by decide)
  · rcases Json.eq_or_isDigit_of_mem_intChars hid with hminus | hdigit
    · exact absurd hminus (by decide)
    · exact absurd hdigit (by decide)

theorem id_eq_of_label (h : a.label = b.label) : a.id = b.id :=
  Int64.toInt_inj.1 (Json.intChars_injective (List.append_cancel_left h))

/-- **A text is that of one block only.** -/
theorem text_injective : Function.Injective text := by
  intro a b h
  have hchars := congrArg String.toList h
  rw [toList_text, toList_text] at hchars
  have hcolon (pool rest : List Char) : ':' ∈ pool ++ ':' :: rest :=
    List.mem_append_right pool List.mem_cons_self
  by_cases ha : a.pool = "" <;> by_cases hb : b.pool = ""
  · rw [if_pos ha, if_pos hb] at hchars
    exact Block.ext (ha.trans hb.symm) (id_eq_of_label hchars)
  · rw [if_pos ha, if_neg hb] at hchars
    exact absurd (hchars ▸ hcolon _ _) a.colon_not_mem_label
  · rw [if_neg ha, if_pos hb] at hchars
    exact absurd (hchars ▸ hcolon _ _) b.colon_not_mem_label
  · rw [if_neg ha, if_neg hb] at hchars
    obtain ⟨hpool, hlabel⟩ :=
      append_separator_inj a.colon_not_mem_label b.colon_not_mem_label hchars
    exact Block.ext (String.toList_inj.1 hpool) (id_eq_of_label hlabel)

end Block

/-! ## Refusals for the wrong block -/

section Refusals

variable {x : Identifier} {owner? : Option String} {block own requested : Block}
  {mode : AccessMode} {now : Instant}

/-- Claims that are refused for the wrong block name another one than the one asked for. -/
theorem Identifier.blocks_of_checkClaims
    (h : x.checkClaims owner? block mode now = .error (.blockMismatch own requested)) :
    requested = block ∧ own = x.block ∧ own ≠ requested := by
  unfold checkClaims at h
  split at h
  · cases h
  split at h
  · rename_i hblock
    cases h
    exact ⟨rfl, rfl, hblock⟩
  split at h
  · cases h
  · split at h <;> cases h

theorem Manager.blocks_of_checkIdentifier {m : Manager}
    (h : m.checkIdentifier now x owner? block mode = .error (.blockMismatch own requested)) :
    requested = block ∧ own = x.block ∧ own ≠ requested := by
  unfold checkIdentifier at h
  cases hclaims : x.checkClaims owner? block mode now with
  | error e =>
    rw [hclaims] at h
    cases h
    exact Identifier.blocks_of_checkClaims hclaims
  | ok =>
    rw [hclaims] at h
    cases hkey : m.window.find? x.keyId now <;> simp only [hkey] at h <;> cases h

namespace Deployment

variable {d : Deployment} {a : Authority}

theorem blocks_of_checkAccess {t : Token}
    (h : d.checkAccess a t owner? block mode = .error (.blockMismatch own requested)) :
    requested = block ∧ (∃ x, t.Says x ∧ own = x.block) ∧ own ≠ requested := by
  rcases refusal_of_checkAccess h with ⟨-, hunknown⟩ | ⟨r, -, hrefusal⟩
  · cases hunknown
  · cases hrefusal with
    | otherBlock hform htime hblock => exact ⟨rfl, ⟨_, hform, rfl⟩, hblock⟩

theorem blocks_of_checkIdentifier
    (h : d.checkIdentifier a x owner? block mode = .error (.blockMismatch own requested)) :
    requested = block ∧ own = x.block ∧ own ≠ requested := by
  rcases inCharge_cases d a block.pool with ⟨hcharge, -⟩ | ⟨r, hcharge, -⟩
  · rw [checkIdentifier, hcharge] at h
    cases h
  · rw [checkIdentifier, hcharge] at h
    exact Manager.blocks_of_checkIdentifier h

end Deployment

end Refusals

/-- **The names of blocks are unambiguous.** Blocks with the same text are the same block, whatever
the names of their pools are. So whenever a manager or a registry refuses a token or an identifier
for the wrong block, the refusal gives the text of the block that is named there and the text of the
block that was asked for, and these are different texts. -/
theorem block_names_unambiguous :
    Function.Injective Block.text ∧
    ∀ (d : Deployment) (a : Authority) (owner? : Option String) (block : Block)
      (mode : AccessMode) (own requested : Block),
      (∀ t, d.checkAccess a t owner? block mode = .error (.blockMismatch own requested) →
        requested = block ∧ (∃ x, t.Says x ∧ own = x.block) ∧ own.text ≠ requested.text) ∧
      ∀ x, d.checkIdentifier a x owner? block mode = .error (.blockMismatch own requested) →
        requested = block ∧ own = x.block ∧ own.text ≠ requested.text := by
  refine ⟨Block.text_injective, fun d a owner? block mode own requested => ⟨?_, ?_⟩⟩
  · intro t h
    obtain ⟨hrequested, hsaid, hne⟩ := Deployment.blocks_of_checkAccess h
    exact ⟨hrequested, hsaid, fun hsame => hne (Block.text_injective hsame)⟩
  · intro x h
    obtain ⟨hrequested, hown, hne⟩ := Deployment.blocks_of_checkIdentifier h
    exact ⟨hrequested, hown, fun hsame => hne (Block.text_injective hsame)⟩

/-- The name of the pool that is asked about is the text of the block that the token is for. -/
theorem block_names_unambiguous_of_lookalikes :
    (⟨"left", 7⟩ : Block).text = "left:blk_7" ∧
      Deployment.sharing.checkAccess (.manager ⟨0⟩) .shared none ⟨"left:blk_7", 7⟩ .read
        = .error (.blockMismatch ⟨"left", 7⟩ ⟨"left:blk_7", 7⟩) ∧
      Deployment.sharing.checkIdentifier (.manager ⟨0⟩) .shared none ⟨"left:blk_7", 7⟩ .read
        = .error (.blockMismatch ⟨"left", 7⟩ ⟨"left:blk_7", 7⟩) ∧
      (⟨"left", 7⟩ : Block).text ≠ (⟨"left:blk_7", 7⟩ : Block).text := by
  have hclaims : Identifier.shared.checkClaims none ⟨"left:blk_7", 7⟩ .read ⟨0⟩
      = .error (.blockMismatch ⟨"left", 7⟩ ⟨"left:blk_7", 7⟩) := rfl
  have haccess : Deployment.sharing.checkAccess (.manager ⟨0⟩) .shared none ⟨"left:blk_7", 7⟩ .read
      = .error (.blockMismatch ⟨"left", 7⟩ ⟨"left:blk_7", 7⟩) := by
    show (Deployment.sharing.manager ⟨0⟩).checkAccess ⟨0⟩ .shared none ⟨"left:blk_7", 7⟩ .read = _
    exact Manager.checkAccess_of_claims_error carries_shared.decode hclaims
  have hidentifier : Deployment.sharing.checkIdentifier (.manager ⟨0⟩) .shared none
      ⟨"left:blk_7", 7⟩ .read = .error (.blockMismatch ⟨"left", 7⟩ ⟨"left:blk_7", 7⟩) := rfl
  obtain ⟨htoken, -⟩ := block_names_unambiguous.2 _ _ _ _ _ _ _
  exact ⟨by decide, haccess, hidentifier, (htoken _ haccess).2.2⟩

end BlockAccess
