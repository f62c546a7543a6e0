import FormRules.Column.Record
import FormRules.Proofs.Json.Value

/-!
Contract: the fields of a record, read one by one.

Owns:
- what holds of a field that was read, of every item of a list, and of a default;
- values that may be missing, and 32-bit numbers, read back as they are written.

Does not own: the fields of any particular record.
-/

namespace FormRules.Json

/-- A field with a default holds the default or what was read. -/
theorem of_withDefault {α : Type} (property : α → Prop) {fields : List (String × Json)}
    {name : String} {default value : α} {read : Json → Option α}
    (given : withDefault fields name default read = some value) (usual : property default)
    (whenRead : ∀ written, read written = some value → property value) : property value := by
  unfold withDefault at given
  split at given
  next written found => exact whenRead written given
  next => cases given; exact usual

theorem exists_of_mem_listOf {α : Type} {read : Json → Option α} {value : Json} {items : List α}
    (given : listOf read value = some items) {item : α} (member : item ∈ items) :
    ∃ written, read written = some item := by
  obtain ⟨values, inArray, readAll⟩ := Option.bind_eq_some_iff.1 given
  clear inArray given
  induction values generalizing items with
  | nil =>
      cases readAll
      cases member
  | cons first rest inductionHypothesis =>
      simp only [List.mapM_cons, bind, Option.bind_eq_some_iff, pure, Option.some_inj] at readAll
      obtain ⟨head, readHead, tail, readTail, rfl⟩ := readAll
      rcases List.mem_cons.1 member with rfl | inTail
      · exact ⟨first, readHead⟩
      · exact inductionHypothesis inTail readTail

/-- A value that may be missing is read back if a given one is, and is not taken for
a missing one. -/
theorem nullable_ofOption {α : Type} (write : α → Json) (read : Json → Option α)
    (proper : ∀ value, write value ≠ .null) (readsBack : ∀ value, read (write value) = some value)
    (value : Option α) : nullable read (.ofOption write value) = some value := by
  cases value with
  | none => rfl
  | some value =>
      rw [ofOption, nullable.eq_2 _ _ (proper value), readsBack]
      rfl

theorem word32?_decimal (value : UInt32) :
    word32? (.number (Text.decimal value.toNat)) = some value := by
  rw [word32?, Text.naturalOf?_decimal, Option.bind_some, Text.word32?,
    if_pos value.toNat_lt_size, UInt32.ofNat_toNat]

theorem readsBack_ofOption {α : Type} {write : α → Json}
    (readsBack : ∀ value, (write value).ReadsBack) (value : Option α) :
    (Json.ofOption write value).ReadsBack := by
  cases value with
  | none => exact readsBack_null
  | some value => exact readsBack value

end FormRules.Json
