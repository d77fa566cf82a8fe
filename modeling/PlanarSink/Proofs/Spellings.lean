import Mathlib.Data.List.DropRight
import Mathlib.Data.List.Nodup
import PlanarSink.Proofs.SampleNames
import PlanarSink.Text.Grammar

/-! The texts that stand for a sample type: its name in any case, and its code in decimal, each
between blanks. -/
namespace PlanarSink

namespace Text

section Blank

variable {text core : List Char}

theorem trimChars_eq_rdropWhile (text : List Char) :
    trimChars text = (text.dropWhile isBlank).rdropWhile isBlank := rfl

theorem rdropWhile_isBlank (closed : ∀ c ∈ core.getLast?, isBlank c = false) :
    core.rdropWhile isBlank = core :=
  List.rdropWhile_eq_self_iff.mpr fun filled => by
    simp [closed _ (List.getLast?_eq_getLast_of_ne_nil filled)]

theorem rdropWhile_append (after : List Char) (blank : ∀ c ∈ after, isBlank c = true) :
    (core ++ after).rdropWhile isBlank = core.rdropWhile isBlank := by
  rw [List.rdropWhile, List.reverse_append, List.dropWhile_append_of_pos (by simpa using blank),
    List.rdropWhile]

theorem trimChars_opened : ∀ c ∈ (trimChars text).head?, isBlank c = false := by
  intro c first
  obtain ⟨after, whole⟩ := List.rdropWhile_prefix isBlank (text.dropWhile isBlank)
  have start : (text.dropWhile isBlank).head? = some c := by
    rw [← whole, List.head?_append, ← trimChars_eq_rdropWhile, Option.mem_def.mp first]
    rfl
  have := List.head?_dropWhile_not isBlank text
  rwa [start] at this

/-- Trimming strips a text of its blank ends, and leaves the only text that is so stripped. -/
theorem stripped_iff : Stripped text core ↔ core = trimChars text := by
  constructor
  · rintro ⟨⟨before, after, rfl, blank, blank'⟩, opened, closed⟩
    rw [trimChars_eq_rdropWhile, List.dropWhile_append_of_pos blank]
    cases core with
    | nil => rw [List.nil_append, List.dropWhile_eq_nil_iff.mpr blank']; rfl
    | cons c rest =>
      rw [List.cons_append, List.dropWhile_cons_of_neg (by simp [opened c rfl]),
        ← List.cons_append, rdropWhile_append _ blank', rdropWhile_isBlank closed]
  · rintro rfl
    simp only [trimChars_eq_rdropWhile]
    refine ⟨⟨text.takeWhile isBlank, (text.dropWhile isBlank).rtakeWhile isBlank, ?_,
      fun _ => List.mem_takeWhile_imp, fun _ => List.mem_rtakeWhile_imp⟩, trimChars_opened, ?_⟩
    · rw [List.rdropWhile_append_rtakeWhile, List.takeWhile_append_dropWhile]
    · intro c last
      obtain ⟨filled, rfl⟩ := List.mem_getLast?_eq_getLast last
      simpa using List.rdropWhile_last_not isBlank (text.dropWhile isBlank) filled

end Blank

section Case

theorem isUpper_iff {c : Char} : c.isUpper = true ↔ 65 ≤ c.toNat ∧ c.toNat ≤ 90 := by
  change decide (c.val ≥ 65 ∧ c.val ≤ 90) = true ↔ _
  rw [decide_eq_true_eq, ge_iff_le, UInt32.le_iff_toNat_le, UInt32.le_iff_toNat_le]
  rfl

theorem toNat_toLower (c : Char) :
    c.toLower.toNat = if c.isUpper then c.toNat + 32 else c.toNat := by
  by_cases upper : c.isUpper = true
  · have bound : c.toNat ≤ 90 := (isUpper_iff.mp upper).2
    have lower : c.toLower.val = c.val + 32 :=
      congrArg Char.val (dif_pos (of_decide_eq_true upper))
    rw [if_pos upper, ← Char.toNat_val, lower, UInt32.toNat_add, Char.toNat_val]
    exact Nat.mod_eq_of_lt (by simp; omega)
  · have same : c.toLower = c := dif_neg fun within => upper (decide_eq_true within)
    rw [if_neg upper, same]

theorem sameLetter_iff {c d : Char} : SameLetter c d ↔ c.toLower = d.toLower := by
  rw [← Char.toNat_inj, toNat_toLower, toNat_toLower]
  constructor
  · rintro (_ | ⟨letter, apart⟩ | ⟨letter, apart⟩)
    · rfl
    all_goals simp only [isUpper_iff] at letter ⊢; split_ifs <;> omega
  · intro same
    split_ifs at same with upper upper' upper'
    · rw [Char.toNat_inj.mp (Nat.add_right_cancel same)]; exact .refl d
    · exact .lowered upper same.symm
    · exact .raised upper' same
    · rw [Char.toNat_inj.mp same]; exact .refl d

/-- Texts fold to the same text where they differ only in case. -/
theorem caseless_iff {a b : String} : Caseless a.toList b.toList ↔ fold a = fold b := by
  have same : SameLetter = fun c d => c.toLower = d.toLower := by
    ext; exact sameLetter_iff
  rw [fold, fold, ← List.forall₂_eq_eq_eq, List.forall₂_map_left_iff, List.forall₂_map_right_iff,
    Caseless, same]

end Case

section Number

variable {cs : List Char} {n : Nat}

theorem digitChar_of_isDigit {c : Char} (digit : c.isDigit = true) :
    c.toNat - 48 < 10 ∧ (c.toNat - 48).digitChar = c := by
  obtain ⟨low, high⟩ : 48 ≤ c.toNat ∧ c.toNat ≤ 57 := Char.isDigit_iff_toNat.mp digit
  have single : c.toNat - 48 < 10 := by omega
  refine ⟨single, Char.toNat_inj.mp ?_⟩
  rw [Nat.toNat_digitChar_of_lt_ten single]
  omega

theorem digitsValue_concat (c : Char) :
    digitsValue (cs ++ [c]) = digitsValue cs * 10 + (c.toNat - 48) := by
  simp [digitsValue]

theorem Numeral.digits (numeral : Numeral cs n) :
    isDigits cs = true ∧ digitsValue cs = n := by
  induction numeral with
  | digit single =>
    simp [isDigits, digitsValue, Nat.isDigit_digitChar, Nat.toNat_digitChar_of_lt_ten, single]
  | snoc front single ih =>
    rw [digitsValue_concat, ih.2, Nat.toNat_digitChar_of_lt_ten single, Nat.add_sub_cancel_left]
    simp_all [isDigits, Nat.isDigit_digitChar]

theorem numeral_of_isDigits (digits : isDigits cs = true) : Numeral cs (digitsValue cs) := by
  induction cs using List.reverseRecOn with
  | nil => cases digits
  | append_singleton front c ih =>
    have all : front.all Char.isDigit = true ∧ c.isDigit = true := by simpa [isDigits] using digits
    obtain ⟨single, char⟩ := digitChar_of_isDigit all.2
    rw [digitsValue_concat]
    cases front with
    | nil => simpa [digitsValue, char] using Numeral.digit single
    | cons first rest =>
      have := Numeral.snoc (ih (by simpa [isDigits] using all.1)) single
      rwa [char] at this

theorem unsigned?_eq_some : unsigned? cs = some n ↔ Numeral cs n := by
  rw [unsigned?, Option.ite_none_right_eq_some, Option.some_inj]
  constructor
  · rintro ⟨digits, rfl⟩
    exact numeral_of_isDigits digits
  · exact Numeral.digits

theorem Numeral.first (numeral : Numeral cs n) :
    ∃ c rest, cs = c :: rest ∧ c.isDigit = true := by
  have digits := numeral.digits.1
  cases cs with
  | nil => cases digits
  | cons c rest => exact ⟨c, rest, rfl, by simp_all [isDigits]⟩

theorem integer?_minus (cs : List Char) :
    integer? ('-' :: cs) = (unsigned? cs).map fun n : Nat => -(n : Int) := by
  rw [integer?]
  cases unsigned? cs <;> rfl

theorem integer?_eq_some {value : Int} : integer? cs = some value ↔ Integer cs value := by
  constructor
  · intro read
    unfold integer? at read
    split at read
    · rw [← integer?, integer?_minus] at read
      obtain ⟨n, digits, rfl⟩ := Option.map_eq_some_iff.mp read
      exact .minus (unsigned?_eq_some.mp digits)
    · obtain ⟨n, digits, rfl⟩ := Option.map_eq_some_iff.mp read
      unfold natural? at digits
      split at digits <;> rw [unsigned?_eq_some] at digits
      · exact .plus digits
      · exact .unsigned digits
  · rintro (digits | digits | digits)
    · obtain ⟨c, rest, rfl, digit⟩ := digits.first
      rw [integer?, natural?, unsigned?_eq_some.mpr digits]
      · rfl
      all_goals rintro _ ⟨⟩; cases digit
    · rw [integer?, natural?, unsigned?_eq_some.mpr digits]
      · rfl
      · simp
    · rw [integer?_minus, unsigned?_eq_some.mpr digits]; rfl

theorem int32?_eq_some {s : String} {code : Int32} :
    int32? s = some code ↔
      ∃ value, Integer s.toList value ∧ -0x80000000 ≤ value ∧ value < 0x80000000 ∧
        code.toInt = value := by
  simp only [int32?, Option.map_eq_some_iff, Option.filter_eq_some_iff, integer?_eq_some,
    Bool.and_eq_true, decide_eq_true_eq]
  constructor
  · rintro ⟨value, ⟨digits, low, high⟩, rfl⟩
    exact ⟨value, digits, low, high, Int32.toInt_ofInt_of_le low high⟩
  · rintro ⟨value, digits, low, high, rfl⟩
    exact ⟨code.toInt, ⟨digits, low, high⟩, Int32.ofInt_toInt code⟩

end Number

end Text

namespace SampleType

/-- The text is the name of a known type but for the case of its letters. -/
def Named (core : List Char) (t : SampleType) : Prop :=
  ∃ entry ∈ known, Text.Caseless entry.name.toList core ∧ t.code.toInt = entry.code

/-- The text is the code of the type in decimal. -/
def Numbered (core : List Char) (t : SampleType) : Prop :=
  ∃ value, Text.Integer core value ∧ -0x80000000 ≤ value ∧ value < 0x80000000 ∧
    t.code.toInt = value

/-- No two names differ only in case. -/
theorem known_apart : (known.map fun entry => Text.fold entry.name).Nodup := by
  decide

theorem toInt_known : ∀ entry ∈ known, (Int32.ofInt entry.code).toInt = entry.code := by
  decide

theorem ofName?_eq_some {core : String} {t : SampleType} :
    ofName? core = some t ↔ Named core.toList t := by
  simp only [ofName?, Option.map_eq_some_iff, Named, Text.caseless_iff]
  constructor
  · rintro ⟨entry, found, rfl⟩
    have listed := List.mem_of_find?_eq_some found
    have same : Text.sameFolded entry.name core = true := by simpa using List.find?_some found
    exact ⟨entry, listed, Text.sameFolded_iff.mp same, toInt_known entry listed⟩
  · rintro ⟨entry, listed, same, code⟩
    obtain ⟨first, found⟩ : ∃ first, known.find?
        (fun entry => Text.sameFolded entry.name core) = some first :=
      Option.isSome_iff_exists.mp (List.find?_isSome.mpr
        ⟨entry, listed, Text.sameFolded_iff.mpr same⟩)
    have same' : Text.sameFolded first.name core = true := by simpa using List.find?_some found
    obtain rfl : first = entry := List.inj_on_of_nodup_map known_apart
      (List.mem_of_find?_eq_some found) listed ((Text.sameFolded_iff.mp same').trans same.symm)
    exact ⟨first, found, by rw [ofInt, ← code, Int32.ofInt_toInt]⟩

theorem int32?_eq_some {core : String} {t : SampleType} :
    Text.int32? core = some t.code ↔ Numbered core.toList t :=
  Text.int32?_eq_some

theorem head_known :
    ∀ entry ∈ known, (entry.name.toList.head?.any fun c => 58 ≤ c.toNat) = true := by
  decide

theorem Named.head {core : List Char} {t : SampleType} (named : Named core t) :
    ∃ c ∈ core.head?, 58 ≤ c.toNat := by
  obtain ⟨entry, listed, same, -⟩ := named
  have high := head_known entry listed
  generalize entry.name.toList = name at same high
  cases same with
  | nil => cases high
  | @cons c d _ _ letter _ =>
    have high : 58 ≤ c.toNat := by simpa using high
    refine ⟨d, rfl, ?_⟩
    cases letter with
    | refl => exact high
    | lowered _ apart => omega
    | raised letter _ => have := (Text.isUpper_iff.mp letter).1; omega

theorem Numbered.head {core : List Char} {t : SampleType} (numbered : Numbered core t) :
    ∀ c ∈ core.head?, c.toNat < 58 := by
  obtain ⟨value, digits, -⟩ := numbered
  intro c first
  cases digits with
  | unsigned digits =>
    obtain ⟨d, rest, rfl, digit⟩ := digits.first
    cases first
    have : c.toNat ≤ 57 := (Char.isDigit_iff_toNat.mp digit).2
    omega
  | plus => cases first; decide
  | minus => cases first; decide

theorem Named.not_numbered {core : List Char} {t u : SampleType} (named : Named core t) :
    ¬Numbered core u := by
  intro numbered
  obtain ⟨c, first, high⟩ := named.head
  have := numbered.head c first
  omega

theorem parse_eq_ok {text : String} {t : SampleType} :
    parse text = .ok t ↔
      Named (Text.trim text).toList t ∨ Numbered (Text.trim text).toList t := by
  constructor
  · intro read
    simp only [parse] at read
    split at read
    · rename_i found
      cases read
      exact .inl (ofName?_eq_some.mp found)
    · split at read <;> cases read
      rename_i found
      exact .inr (int32?_eq_some.mp found)
  · rintro (named | numbered)
    · simp only [parse, ofName?_eq_some.mpr named]
    · have unnamed : ofName? (Text.trim text) = none :=
        Option.eq_none_iff_forall_ne_some.mpr fun _ found =>
          (ofName?_eq_some.mp found).not_numbered numbered
      simp only [parse, unnamed, int32?_eq_some.mpr numbered]

theorem parse_cases (text : String) :
    (∃ t, parse text = .ok t) ∨ parse text = .error (Text.trim text) := by
  simp only [parse]
  split
  · exact .inl ⟨_, rfl⟩
  · split
    · exact .inl ⟨_, rfl⟩
    · exact .inr rfl

/-- A text is read as a sample type where, without its blanks, it is the name of the type in any
case or its code in decimal. It is not both, and not of two types. Elsewhere it is refused, and
the message quotes it without its blanks. -/
theorem parse_spelled (text : String) :
    ∃ core : String,
      (∀ other, Text.Stripped text.toList other ↔ other = core.toList) ∧
      (∀ t, parse text = .ok t ↔ Named core.toList t ∨ Numbered core.toList t) ∧
      ((∀ t, ¬(Named core.toList t ∨ Numbered core.toList t)) →
        (parse text).mapError parseMessage =
          .error ("unknown ASIO sample type '" ++ core ++ "'")) ∧
      (∀ t u, Named core.toList t → ¬Numbered core.toList u) ∧
      ∀ t u, Named core.toList t ∨ Numbered core.toList t →
        Named core.toList u ∨ Numbered core.toList u → t = u := by
  have trimmed : (Text.trim text).toList = Text.trimChars text.toList := String.toList_ofList
  refine ⟨Text.trim text, ?_, fun _ => parse_eq_ok, ?_, fun _ _ => Named.not_numbered, ?_⟩
  · intro other
    rw [Text.stripped_iff, trimmed]
  · intro unread
    obtain ⟨t, read⟩ | refused := parse_cases text
    · exact (unread t (parse_eq_ok.mp read)).elim
    · rw [refused]; rfl
  · intro t u reads reads'
    exact Except.ok.inj ((parse_eq_ok.mpr reads).symm.trans (parse_eq_ok.mpr reads'))

example : parse " -0002147483648\u00a0" = .ok ⟨-2147483648⟩ := by decide

example : parse "+2147483648" = .error "+2147483648" := by rfl

end SampleType

end PlanarSink
