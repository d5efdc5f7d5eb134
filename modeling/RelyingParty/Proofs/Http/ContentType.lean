import Mathlib.Data.List.DropRight
import RelyingParty.Http.Message

set_option autoImplicit false

namespace RelyingParty.Http.ContentType

def bare (text : List Char) : List Char :=
  ((text.takeWhile (· != ';')).dropWhile Char.isWhitespace).rdropWhile Char.isWhitespace

def mediaType? (value : Bytes) : Option String :=
  (text? value).map fun text => String.ofList (bare (text.toList.map Char.toLower))

/-- A header value is text that begins with no blank, and its media type begins with one of the two
names for key sets. -/
def Announced (value : Bytes) : Prop :=
  ∃ text mediaType, text? value = some text ∧ mediaType? value = some mediaType ∧
    (∀ first ∈ text.toList.head?, first.isWhitespace = false) ∧
    (mediaTypeJson.toList <+: mediaType.toList ∨ mediaTypeKeySet.toList <+: mediaType.toList)

theorem prefix_rdropWhile {A : Type} (remove : A -> Bool) (name text : List A)
    (kept : ∀ item ∈ name, remove item = false) (begins : name <+: text) :
    name <+: text.rdropWhile remove := by
  rcases List.prefix_or_prefix_of_prefix begins (text.rdropWhile_prefix remove) with inside | past
  next => exact inside
  next =>
    -- What the name has in addition would have been removed.
    obtain ⟨more, rfl⟩ := past
    obtain ⟨after, same⟩ := begins
    have parts : text.rdropWhile remove ++ text.rtakeWhile remove = text :=
      List.rdropWhile_append_rtakeWhile
    have removed : more ++ after = text.rtakeWhile remove := by
      rw [List.append_assoc] at same
      exact List.append_cancel_left (same.trans parts.symm)
    have none : more = [] := by
      refine List.eq_nil_iff_forall_not_mem.mpr fun item found => ?_
      have lost := List.mem_rtakeWhile_imp (removed ▸ List.mem_append_left after found)
      rw [kept item (List.mem_append_right _ found)] at lost
      cases lost
    simp [none]

structure IsName (name : List Char) : Prop where
  nonempty : name ≠ []
  plain : (name.all fun c => c != ';' && !c.isWhitespace) = true

theorem IsName.begins_bare {name : List Char} (isName : IsName name) (text : List Char) :
    name <+: text ↔
      (∀ first ∈ text.head?, first.isWhitespace = false) ∧ name <+: bare text := by
  have plain (c : Char) (found : c ∈ name) : c ≠ ';' ∧ c.isWhitespace = false := by
    simpa using List.all_eq_true.mp isName.plain c found
  constructor
  next =>
    rintro ⟨after, rfl⟩
    obtain ⟨first, rest, rfl⟩ := List.exists_cons_of_ne_nil isName.nonempty
    have unblank := (plain first List.mem_cons_self).2
    refine ⟨by simpa using unblank, prefix_rdropWhile _ _ _ (fun c found => (plain c found).2) ?_⟩
    rw [List.takeWhile_append_of_pos (by simpa using fun c found => (plain c found).1),
      List.cons_append, List.dropWhile_cons_of_neg (by simp [unblank])]
    exact ⟨_, rfl⟩
  next =>
    rintro ⟨unblank, begins⟩
    have same : (text.takeWhile (· != ';')).dropWhile Char.isWhitespace =
        text.takeWhile (· != ';') := by
      cases text with
      | nil => rfl
      | cons first rest =>
        have unblank := unblank first rfl
        by_cases semicolon : first = ';' <;> simp [semicolon, unblank]
    rw [bare, same] at begins
    exact begins.trans ((List.rdropWhile_prefix _ _).trans (List.takeWhile_prefix _))

theorem large_isWhitespace (c : Char) (large : 32 < c.toNat) : c.isWhitespace = false := by
  have other (blank : Char) (small : blank.toNat ≤ 32) : c ≠ blank := by
    rintro rfl
    exact absurd large (not_lt.mpr small)
  simp [Char.isWhitespace, other ' ' (by decide), other '\t' (by decide), other '\r' (by decide),
    other '\n' (by decide)]

theorem toLower_isWhitespace (c : Char) : c.toLower.isWhitespace = c.isWhitespace := by
  by_cases upper : 'A'.val ≤ c.val ∧ c.val ≤ 'Z'.val
  next =>
    have large : 65 ≤ c.toNat := upper.1
    have small : c.val.toNat ≤ 90 := upper.2
    have lower : c.toLower.val = c.val + 32 := congrArg Char.val (dif_pos upper)
    have lower : c.toLower.toNat = c.toNat + 32 := by
      have offset : (32 : UInt32).toNat = 32 := rfl
      change c.toLower.val.toNat = c.val.toNat + 32
      rw [lower, UInt32.toNat_add, offset, Nat.mod_eq_of_lt (by omega)]
    rw [large_isWhitespace c (by omega), large_isWhitespace c.toLower (by omega)]
  next => exact congrArg Char.isWhitespace (dif_neg upper)

theorem startsWith_exact (value : Bytes) (name : String) (isName : IsName name.toList) :
    startsWith value name = true ↔
      ∃ text mediaType, text? value = some text ∧ mediaType? value = some mediaType ∧
        (∀ first ∈ text.toList.head?, first.isWhitespace = false) ∧
        name.toList <+: mediaType.toList := by
  unfold startsWith mediaType?
  cases text? value with
  | none => simp
  | some text =>
    have front : (∀ first ∈ (text.toList.map Char.toLower).head?, first.isWhitespace = false) ↔
        ∀ first ∈ text.toList.head?, first.isWhitespace = false := by
      cases text.toList <;> simp [toLower_isWhitespace]
    dsimp only
    rw [List.isPrefixOf_iff_prefix, isName.begins_bare, front]
    simp

theorem isJson_announced (value : Bytes) : isJson value = true ↔ Announced value := by
  have json : IsName mediaTypeJson.toList := ⟨by decide, by decide⟩
  have keySet : IsName mediaTypeKeySet.toList := ⟨by decide, by decide⟩
  rw [isJson, Bool.or_eq_true, startsWith_exact value _ json, startsWith_exact value _ keySet]
  simp only [Announced, and_or_left, exists_or]

end RelyingParty.Http.ContentType
