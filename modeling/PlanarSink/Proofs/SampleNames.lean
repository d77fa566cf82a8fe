import PlanarSink.Sample.Type

/-! The text of a sample type, read back. A known type is found again by its name; the text of
an unknown one is neither a name nor a number, though its code stands in it. -/
namespace PlanarSink

namespace Text

theorem trimChars_eq {first last : Char} (middle : List Char) (opened : isBlank first = false)
    (closed : isBlank last = false) :
    trimChars (first :: (middle ++ [last])) = first :: (middle ++ [last]) := by
  have reversed : (first :: (middle ++ [last])).reverse = last :: (middle.reverse ++ [first]) := by
    simp
  rw [trimChars, List.dropWhile_cons_of_neg (by simp [opened]), reversed,
    List.dropWhile_cons_of_neg (by simp [closed]), ← reversed, List.reverse_reverse]

theorem integer?_eq_none {first : Char} (rest : List Char) (notDigit : first.isDigit = false)
    (notPlus : first ≠ '+') (notMinus : first ≠ '-') : integer? (first :: rest) = none := by
  have notDigits : isDigits (first :: rest) = false := by simp [isDigits, notDigit]
  rw [integer?, natural?, unsigned?, notDigits]
  · rfl
  · exact fun _ same => notPlus (List.cons.inj same).1
  · exact fun _ same => notMinus (List.cons.inj same).1

end Text

namespace SampleType

theorem ofName?_known :
    ∀ entry ∈ known, ofName? (Text.trim entry.name) = some (ofInt entry.code) := by
  decide

theorem fold_known : ∀ entry ∈ known, (Text.fold entry.name).getLast? ≠ some ')' := by
  decide

theorem display_of_known {t : SampleType} {entry : Entry} (found : t.entry? = some entry) :
    t.display = entry.name ∧ t = ofInt entry.code := by
  have code : entry.code = t.code.toInt := by simpa using List.find?_some found
  refine ⟨by simp [display, name?, found], ?_⟩
  rw [ofInt, code, Int32.ofInt_toInt]

theorem display_of_unknown {t : SampleType} (unknown : t.entry? = none) :
    t.display.toList =
      'S' :: (("ampleType(" ++ toString t.code.toInt).toList ++ [')']) := by
  simp [display, name?, unknown, String.toList_append]

theorem parse_of_unknown {t : SampleType} (unknown : t.entry? = none) :
    parse t.display = .error t.display := by
  have chars := display_of_unknown unknown
  have trimmed : Text.trim t.display = t.display := by
    rw [Text.trim, chars, Text.trimChars_eq _ rfl rfl, ← chars, String.ofList_toList]
  have unnamed : ofName? t.display = none := by
    rw [ofName?, Option.map_eq_none_iff, List.find?_eq_none]
    intro entry member same
    apply fold_known entry member
    rw [Text.sameFolded_iff.mp same, Text.fold, chars, List.map_cons, List.map_append,
      ← List.cons_append]
    exact List.getLast?_concat
  have unnumbered : Text.int32? t.display = none := by
    rw [Text.int32?, chars, Text.integer?_eq_none _ rfl (by decide) (by decide)]
    rfl
  simp only [parse, trimmed, unnamed, unnumbered]

/-- The text of a type is read as that type where it is known, and refused elsewhere. -/
theorem parse_display (t : SampleType) :
    parse t.display = if t.entry?.isSome then .ok t else .error t.display := by
  cases found : t.entry? with
  | none => exact parse_of_unknown found
  | some entry =>
    obtain ⟨text, same⟩ := display_of_known found
    have named := ofName?_known entry (List.mem_of_find?_eq_some found)
    simp only [parse, text, named, ← same]
    rfl

end SampleType

end PlanarSink
