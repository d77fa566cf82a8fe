import PlanarSink.Driver.Profile
import PlanarSink.Proofs.SampleNames

/-! Profiles that are written down and read again. Whatever they are written on keeps the texts
of their sample types; what such a text is read as depends on whether the type is known. -/
namespace PlanarSink

namespace SampleType

theorem ofText_display (t : SampleType) :
    ofText t.display = if t.entry?.isSome then .ok t else .error (parseMessage t.display) := by
  rw [ofText, parse_display]
  split <;> rfl

theorem ofText_known {t : SampleType} (known : t.entry?.isSome = true) :
    ofText t.display = .ok t := by
  rw [ofText_display, if_pos known]

theorem ofText_unknown {t : SampleType} (unknown : ¬t.entry?.isSome = true) :
    ofText t.display = .error (parseMessage t.display) := by
  rw [ofText_display, if_neg unknown]

end SampleType

/-- Something on which profiles are written down. It may be unable to hold some of them. -/
structure Medium (T : Type) where
  write : SpelledProfile → Option T
  read : T → Except String SpelledProfile

namespace Medium

variable {T : Type}

/-- What could be written is read as it was. -/
def Lossless (medium : Medium T) : Prop :=
  ∀ spelled written, medium.write spelled = some written → medium.read written = .ok spelled

def load (medium : Medium T) (written : T) : Except String Profile :=
  match medium.read written with
  | .ok spelled => spelled.resolve
  | .error message => .error message

/-- A medium that holds one profile only, as a line of text. -/
def single (spelled : SpelledProfile) (line : String) : Medium String where
  write other := if other = spelled then some line else none
  read other := if other = line then .ok spelled else .error "not a profile"

theorem write_single (spelled : SpelledProfile) (line : String) :
    (single spelled line).write spelled = some line :=
  if_pos rfl

theorem lossless_single (spelled : SpelledProfile) (line : String) :
    (single spelled line).Lossless := by
  intro other written taken
  by_cases same : other = spelled
  · simp only [single, if_pos same, Option.some.injEq] at taken ⊢
    rw [if_pos taken.symm, same]
  · simp only [single, if_neg same] at taken
    contradiction

end Medium

namespace Profile

/-- The first of the types a profile names that is not known. -/
def unknown? (p : Profile) : Option SampleType :=
  (p.sampleType :: p.dsdSampleType.toList).find? fun t => !t.entry?.isSome

/-- A profile is found again where the types it names are known. Elsewhere it is refused for the
first of them that is not. -/
theorem resolve_spelled (p : Profile) :
    p.spelled.resolve =
      match p.unknown? with
      | none => .ok p
      | some unknown => .error (SampleType.parseMessage unknown.display) := by
  unfold SpelledProfile.resolve spelled unknown?
  by_cases known : p.sampleType.entry?.isSome = true
  · rw [List.find?_cons_of_neg (by simp [known])]
    dsimp only
    rw [SampleType.ofText_known known]
    obtain ⟨traits, sampleType, dsdSampleType⟩ := p
    cases dsdSampleType with
    | none => rfl
    | some t =>
      by_cases known : t.entry?.isSome = true
      · rw [Option.toList_some, List.find?_cons_of_neg (by simp [known])]
        simp only [Option.map_some, Option.mapM_some, SampleType.ofText_known known]
        rfl
      · rw [Option.toList_some, List.find?_cons_of_pos (by simp [known])]
        simp only [Option.map_some, Option.mapM_some, SampleType.ofText_unknown known]
        rfl
  · rw [List.find?_cons_of_pos (by simp [known])]
    dsimp only
    rw [SampleType.ofText_unknown known]
    rfl

/-- The text of a sample type is read as that type where it is known, and refused elsewhere. So a
profile that was written on whatever loses nothing is read back where the types it names are
known, and refused for the first that is not. -/
theorem reread_where_known (t : SampleType) {T : Type} {medium : Medium T}
    (lossless : medium.Lossless) {p : Profile} {written : T}
    (taken : medium.write p.spelled = some written) :
    SampleType.parse t.display = (if t.entry?.isSome then .ok t else .error t.display) ∧
      medium.load written =
        match p.unknown? with
        | none => .ok p
        | some unknown => .error (SampleType.parseMessage unknown.display) := by
  refine ⟨t.parse_display, ?_⟩
  rw [Medium.load, lossless _ _ taken]
  exact p.resolve_spelled

def standardLine : String :=
  "\x7b\"id\":\"sim\",\"name\":\"Simulated ASIO\",\"input_channels\":0," ++
    "\"output_channels\":2,\"min_period\":32,\"max_period\":4096,\"preferred_period\":512," ++
    "\"sample_rates\":[44100,48000,88200,96000,176400,192000]," ++
    "\"sample_type\":\"Float32LSB\",\"dsd_sample_type\":null," ++
    "\"dsd_sample_rates\":[2822400,5644800],\"clock\":true,\"time_info\":false," ++
    "\"fail_at\":null\x7d"

theorem reread_where_known_standard :
    let medium := Medium.single standard.spelled standardLine
    medium.Lossless ∧ medium.write standard.spelled = some standardLine ∧
      SampleType.parse SampleType.float32.display = .ok .float32 ∧
      medium.load standardLine = .ok standard := by
  have lossless := Medium.lossless_single standard.spelled standardLine
  have written := Medium.write_single standard.spelled standardLine
  obtain ⟨text, profile⟩ := reread_where_known .float32 lossless written
  have known : standard.unknown? = none := by decide
  rw [known] at profile
  exact ⟨lossless, written, text, profile⟩

/-- A type with a code that is not in the table does not survive its text, nor does a profile
that names it. -/
theorem unknown_type_lost :
    SampleType.parse (SampleType.ofInt 77).display = .error "SampleType(77)" ∧
      ({ standard with sampleType := .ofInt 77 } : Profile).spelled.resolve =
        .error "unknown ASIO sample type 'SampleType(77)'" :=
  ⟨rfl, rfl⟩

end Profile

end PlanarSink
