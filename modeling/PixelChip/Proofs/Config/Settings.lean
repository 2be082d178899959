import Mathlib.Logic.Function.Basic
import PixelChip.Config.Settings
import PixelChip.Proofs.Text.Reading
import PixelChip.Proofs.Text.Utf8

/-!
# Any environment yields settings that work

`Holds` and `Denotes` say what a variable holds and which number it denotes.  A setting follows its
own variable and no other; a variable that denotes nothing might as well be unset, and what it
denotes is limited to the range in which a chip works.
-/

namespace PixelChip
namespace Settings

variable {environment other : Environment} {name : String} {limit n : Nat} {text core : List Char}

/-! ## What a variable denotes -/

/-- The variable holds a text that is `core` between its blanks. -/
def Holds (environment : Environment) (name : String) (core : List Char) : Prop :=
  ∃ text, environment name = some (Text.encodeUtf8 text) ∧ Text.IsCore text core

/-- The variable denotes a number of a type that has `limit` numbers. -/
def Denotes (environment : Environment) (name : String) (limit n : Nat) : Prop :=
  n < limit ∧ ∃ core, Holds environment name core ∧ Text.IsDecimal core n

/-- The environment without a variable. -/
def unset (environment : Environment) (name : String) : Environment :=
  Function.update environment name none

lemma textOf_eq_some_iff :
    textOf environment name = some text ↔ environment name = some (Text.encodeUtf8 text) := by
  have hdecode : ∀ bytes, (Text.decodeUtf8 bytes).toOption = some text ↔
      bytes = Text.encodeUtf8 text := fun bytes => by
    rw [← Text.decodeUtf8_eq_ok_iff]
    cases Text.decodeUtf8 bytes <;> simp [Except.toOption]
  simp only [textOf, Option.bind_eq_some_iff, hdecode, exists_eq_right]

lemma holds_iff :
    Holds environment name core ↔
      ∃ text, textOf environment name = some text ∧ core = Text.trim text := by
  simp only [Holds, textOf_eq_some_iff, Text.isCore_iff]

section Reading

variable {α : Type} {parse : List Char → Option α} {value : α}

/-- **A variable is read as what it holds between its blanks.** -/
theorem toOption_readWith_of_holds (parse : List Char → Option α)
    (h : Holds environment name core) :
    (readWith parse environment name).toOption = parse core := by
  obtain ⟨text, htext, rfl⟩ := holds_iff.1 h
  rw [readWith, htext]
  dsimp only
  cases parse (Text.trim text) <;> rfl

lemma toOption_readWith_of_not_holds (parse : List Char → Option α)
    (h : ∀ core, ¬ Holds environment name core) :
    (readWith parse environment name).toOption = none := by
  rw [readWith]
  cases htext : textOf environment name with
  | none => rfl
  | some text => exact absurd (holds_iff.2 ⟨text, htext, rfl⟩) (h (Text.trim text))

lemma toOption_readWith_eq_some_iff :
    (readWith parse environment name).toOption = some value ↔
      ∃ core, Holds environment name core ∧ parse core = some value := by
  by_cases h : ∃ core, Holds environment name core
  · obtain ⟨core, hcore⟩ := h
    rw [toOption_readWith_of_holds parse hcore]
    constructor
    · exact fun hvalue => ⟨core, hcore, hvalue⟩
    · rintro ⟨core', hcore', hvalue⟩
      rw [← toOption_readWith_of_holds parse hcore, toOption_readWith_of_holds parse hcore', hvalue]
  · rw [toOption_readWith_of_not_holds parse (not_exists.1 h)]
    constructor
    · nofun
    · rintro ⟨core, hcore, -⟩
      exact absurd ⟨core, hcore⟩ h

lemma readWith_congr (parse : List Char → Option α) (h : environment name = other name) :
    readWith parse environment name = readWith parse other name := by
  simp only [readWith, textOf, h]

/-- Nothing changes without a variable from which nothing was read. -/
lemma toOption_readWith_unset {wanted : String}
    (h : wanted = name → (readWith parse environment wanted).toOption = none) :
    (readWith parse environment wanted).toOption =
      (readWith parse (unset environment name) wanted).toOption := by
  by_cases hname : wanted = name
  · rw [h hname, hname, readWith, textOf, unset, Function.update_self]
    rfl
  · rw [readWith_congr parse (Function.update_of_ne hname none environment).symm, unset]

end Reading

lemma toOption_number_iff :
    (readWith (Text.unsigned? limit) environment name).toOption = some n ↔
      Denotes environment name limit n := by
  simp only [toOption_readWith_eq_some_iff, Text.unsigned?_eq_some_iff, Denotes]
  constructor
  · rintro ⟨core, hcore, hnumber, hlt⟩
    exact ⟨hlt, core, hcore, hnumber⟩
  · rintro ⟨hlt, core, hcore, hnumber⟩
    exact ⟨core, hcore, hnumber, hlt⟩

lemma toOption_number_eq_none (h : ∀ n, ¬ Denotes environment name limit n) :
    (readWith (Text.unsigned? limit) environment name).toOption = none :=
  Option.eq_none_iff_forall_ne_some.2 fun n hn => h n (toOption_number_iff.1 hn)

/-! ## Settings from readings -/

lemma getD_eq {α : Type} (reading : Reading α) (d : α) :
    reading.getD d = reading.toOption.getD d := by
  cases reading <;> rfl

/-- Whatever setting a variable is for, nothing is read from it. -/
structure IsIdle (environment : Environment) (name : String) : Prop where
  listen : "RD53_LISTEN" = name → (readings environment).listen.toOption = none
  chipId : "RD53_CHIP_ID" = name → (readings environment).chipId.toOption = none
  outputMode : "RD53_OUTPUT_MODE" = name → (readings environment).outputMode.toOption = none
  serviceInterval :
    "RD53_SERVICE_INTERVAL" = name → (readings environment).serviceInterval.toOption = none
  randomThresholds :
    "RD53_RANDOM_THRESHOLDS" = name → (readings environment).randomThresholds.toOption = none
  pixelNoise : "RD53_PIXEL_NOISE" = name → (readings environment).pixelNoise.toOption = none
  processPeriod :
    "RD53_PROCESS_PERIOD_MS" = name → (readings environment).processPeriod.toOption = none
  seed : "RD53_SEED" = name → (readings environment).seed.toOption = none

/-- **A variable from which nothing is read might as well be unset.** -/
theorem IsIdle.ofEnvironment_unset (h : IsIdle environment name) :
    ofEnvironment environment = ofEnvironment (unset environment name) := by
  have hlisten := toOption_readWith_unset h.listen
  have hchip := toOption_readWith_unset h.chipId
  have hmode := toOption_readWith_unset h.outputMode
  have hinterval := toOption_readWith_unset h.serviceInterval
  have hrandom := toOption_readWith_unset h.randomThresholds
  have hnoise := toOption_readWith_unset h.pixelNoise
  have hperiod := toOption_readWith_unset h.processPeriod
  have hseed := toOption_readWith_unset h.seed
  simp only [ofEnvironment, readings, getD_eq, hlisten, hchip, hmode, hinterval, hrandom, hnoise,
    hperiod, hseed]

/-! ## The rules of the settings -/

/-- A chip can run with the settings. -/
structure AreUsable (settings : Settings) : Prop where
  chipId_le : settings.chipId ≤ 7
  one_le_serviceInterval : 1 ≤ settings.serviceInterval
  one_le_processPeriod : 1 ≤ settings.processPeriod

/-- A setting is a function of one variable. -/
def Follows {α : Type} (name : String) (setting : Settings → α) : Prop :=
  ∀ environment other : Environment, environment name = other name →
    setting (ofEnvironment environment) = setting (ofEnvironment other)

/-- A setting is made of the number that a variable denotes.  If it denotes none, all is as without
it. -/
structure FollowsNumber {α : Type} (name : String) (limit : Nat) (setting : Settings → α)
    (use : Nat → α) : Prop where
  of_denotes : ∀ environment n, Denotes environment name limit n →
    setting (ofEnvironment environment) = use n
  of_not_denotes : ∀ environment, (∀ n, ¬ Denotes environment name limit n) →
    ofEnvironment environment = ofEnvironment (unset environment name)

/-- The mode is one with the property, or the default if no mode has it. -/
def Selects (property : OutputMode → Prop) (mode : OutputMode) : Prop :=
  property mode ∨ (∀ other, ¬ property other) ∧ mode = default.outputMode

/-- A mode is selected by the number that a variable denotes, and by name with any other text.  If
the variable holds no text, all is as without it. -/
structure FollowsMode (name : String) (setting : Settings → OutputMode) : Prop where
  of_denotes : ∀ environment n, Denotes environment name UInt8.size n →
    Selects (fun mode => mode.number = n) (setting (ofEnvironment environment))
  of_not_denotes : ∀ environment core, Holds environment name core →
    (∀ n, ¬ Denotes environment name UInt8.size n) →
    Selects (fun mode => core.map Char.toLower = mode.name.toList.map Char.toLower)
      (setting (ofEnvironment environment))
  of_not_holds : ∀ environment, (∀ core, ¬ Holds environment name core) →
    ofEnvironment environment = ofEnvironment (unset environment name)

lemma getD_number_lt {d : Nat} (environment : Environment) (name : String) (hd : d < limit) :
    (readWith (Text.unsigned? limit) environment name).getD d < limit := by
  rw [getD_eq]
  cases hread : (readWith (Text.unsigned? limit) environment name).toOption with
  | none => exact hd
  | some n => exact (toOption_number_iff.1 hread).1

lemma chipId_toNat (environment : Environment) :
    (ofEnvironment environment).chipId.toNat =
      min ((readings environment).chipId.getD default.chipId.toNat) 7 :=
  Nat.mod_eq_of_lt ((Nat.min_le_right _ _).trans_lt (by decide))

lemma serviceInterval_toNat (environment : Environment) :
    (ofEnvironment environment).serviceInterval.toNat =
      max ((readings environment).serviceInterval.getD default.serviceInterval.toNat) 1 :=
  Nat.mod_eq_of_lt (max_lt (getD_number_lt environment _ (by decide)) (by decide))

lemma processPeriod_toNat (environment : Environment) :
    (ofEnvironment environment).processPeriod.toNat =
      max ((readings environment).processPeriod.getD default.processPeriod.toNat) 1 :=
  Nat.mod_eq_of_lt (max_lt (getD_number_lt environment _ (by decide)) (by decide))

lemma areUsable_ofEnvironment (environment : Environment) :
    AreUsable (ofEnvironment environment) where
  chipId_le := by
    rw [UInt8.le_iff_toNat_le, chipId_toNat]
    exact Nat.min_le_right _ _
  one_le_serviceInterval := by
    rw [UInt32.le_iff_toNat_le, serviceInterval_toNat]
    exact Nat.le_max_right _ _
  one_le_processPeriod := by
    rw [UInt64.le_iff_toNat_le, processPeriod_toNat]
    exact Nat.le_max_right _ _

section Rules

variable {α β : Type} {setting : Settings → α}

lemma follows_of_reading (parse : List Char → Option β) (use : Reading β → α)
    (h : ∀ environment,
      setting (ofEnvironment environment) = use (readWith parse environment name)) :
    Follows name setting := fun environment other hsame => by
  rw [h environment, h other, readWith_congr parse hsame]

lemma followsNumber_of_reading {use : Nat → α}
    (huse : ∀ environment n, n < limit →
      (readWith (Text.unsigned? limit) environment name).toOption = some n →
      setting (ofEnvironment environment) = use n)
    (hidle : ∀ environment,
      (readWith (Text.unsigned? limit) environment name).toOption = none →
      IsIdle environment name) :
    FollowsNumber name limit setting use where
  of_denotes environment n h := huse environment n h.1 (toOption_number_iff.2 h)
  of_not_denotes environment h :=
    (hidle environment (toOption_number_eq_none h)).ofEnvironment_unset

end Rules

lemma selects_find? (p : OutputMode → Bool) :
    Selects (fun mode => p mode) ((OutputMode.modes.find? p).getD default.outputMode) := by
  have hmem : ∀ mode, mode ∈ OutputMode.modes := fun mode => by cases mode <;> decide
  cases hfind : OutputMode.modes.find? p with
  | none => exact .inr ⟨fun mode => List.find?_eq_none.1 hfind mode (hmem mode), rfl⟩
  | some mode => exact .inl (List.find?_some hfind)

lemma selects_ofNumber? (n : Nat) :
    Selects (fun mode => mode.number = n) ((OutputMode.ofNumber? n).getD default.outputMode) := by
  have hselects := selects_find? (·.number = n)
  simp only [decide_eq_true_eq] at hselects
  exact hselects

/-- The words for the modes are in lower case already. -/
lemma selects_ofName? (word : List Char) :
    Selects (fun mode => word.map Char.toLower = mode.name.toList.map Char.toLower)
      ((OutputMode.ofName? word).getD default.outputMode) := by
  have hlower : ∀ mode : OutputMode, mode.name.toList.map Char.toLower = mode.name.toList :=
    fun mode => by cases mode <;> decide
  have hselects := selects_find? fun mode => word.map Char.toLower = mode.name.toList
  simp only [decide_eq_true_eq] at hselects
  simp only [hlower]
  exact hselects

lemma outputMode_of_holds (h : Holds environment "RD53_OUTPUT_MODE" core) :
    (ofEnvironment environment).outputMode = (mode? core).getD default.outputMode := by
  rw [← toOption_readWith_of_holds mode? h, ← getD_eq]
  rfl

lemma followsMode_outputMode : FollowsMode "RD53_OUTPUT_MODE" outputMode where
  of_denotes environment n h := by
    obtain ⟨hlt, core, hcore, hnumber⟩ := h
    have hmode : mode? core = OutputMode.ofNumber? n := by
      rw [mode?, Text.unsigned?_eq_some_iff.2 ⟨hnumber, hlt⟩]
    rw [outputMode_of_holds hcore, hmode]
    exact selects_ofNumber? n
  of_not_denotes environment core hcore h := by
    have hmode : mode? core = OutputMode.ofName? core := by
      have hnone := toOption_number_eq_none h
      rw [toOption_readWith_of_holds _ hcore] at hnone
      rw [mode?, hnone]
    rw [outputMode_of_holds hcore, hmode]
    exact selects_ofName? core
  of_not_holds environment h := by
    have hnone := toOption_readWith_of_not_holds mode? h
    refine IsIdle.ofEnvironment_unset ?_
    constructor <;> intro hname <;> first | exact hnone | exact absurd hname (by decide)

lemma followsNumber_chipId :
    FollowsNumber "RD53_CHIP_ID" UInt8.size (·.chipId.toNat) (min · 7) := by
  refine followsNumber_of_reading (fun environment n _ h => ?_) fun environment h => ?_
  · rw [chipId_toNat, getD_eq]
    exact congrArg (fun reading => min (Option.getD reading default.chipId.toNat) 7) h
  · constructor <;> intro hname <;> first | exact h | exact absurd hname (by decide)

lemma followsNumber_serviceInterval :
    FollowsNumber "RD53_SERVICE_INTERVAL" UInt32.size (·.serviceInterval.toNat) (max · 1) := by
  refine followsNumber_of_reading (fun environment n _ h => ?_) fun environment h => ?_
  · rw [serviceInterval_toNat, getD_eq]
    exact congrArg (fun reading => max (Option.getD reading default.serviceInterval.toNat) 1) h
  · constructor <;> intro hname <;> first | exact h | exact absurd hname (by decide)

lemma followsNumber_processPeriod :
    FollowsNumber "RD53_PROCESS_PERIOD_MS" UInt64.size (·.processPeriod.toNat) (max · 1) := by
  refine followsNumber_of_reading (fun environment n _ h => ?_) fun environment h => ?_
  · rw [processPeriod_toNat, getD_eq]
    exact congrArg (fun reading => max (Option.getD reading default.processPeriod.toNat) 1) h
  · constructor <;> intro hname <;> first | exact h | exact absurd hname (by decide)

lemma followsNumber_seed :
    FollowsNumber "RD53_SEED" UInt64.size (·.seed.map UInt64.toNat) some := by
  refine followsNumber_of_reading (fun environment n hlt h => ?_) fun environment h => ?_
  · have hseed : (ofEnvironment environment).seed = some (.ofNat n) :=
      congrArg (Option.map UInt64.ofNat) h
    rw [hseed, Option.map_some, UInt64.toNat_ofNat_of_lt' hlt]
  · constructor <;> intro hname <;> first | exact h | exact absurd hname (by decide)

lemma follows_own_variable :
    Follows "RD53_LISTEN" listen ∧ Follows "RD53_CHIP_ID" chipId ∧
      Follows "RD53_OUTPUT_MODE" outputMode ∧
      Follows "RD53_SERVICE_INTERVAL" serviceInterval ∧
      Follows "RD53_RANDOM_THRESHOLDS" randomThresholds ∧
      Follows "RD53_PIXEL_NOISE" pixelNoise ∧
      Follows "RD53_PROCESS_PERIOD_MS" processPeriod ∧ Follows "RD53_SEED" seed := by
  refine ⟨?_, ?_, ?_, ?_, ?_, ?_, ?_, ?_⟩
  · exact follows_of_reading SocketAddress.ofText? (·.getD default.listen) fun _ => rfl
  · exact follows_of_reading (Text.unsigned? UInt8.size)
      (fun reading => .ofNat (min (reading.getD default.chipId.toNat) 7)) fun _ => rfl
  · exact follows_of_reading mode? (·.getD default.outputMode) fun _ => rfl
  · exact follows_of_reading (Text.unsigned? UInt32.size)
      (fun reading => .ofNat (max (reading.getD default.serviceInterval.toNat) 1)) fun _ => rfl
  · exact follows_of_reading switch? (·.getD default.randomThresholds) fun _ => rfl
  · exact follows_of_reading switch? (·.getD default.pixelNoise) fun _ => rfl
  · exact follows_of_reading (Text.unsigned? UInt64.size)
      (fun reading => .ofNat (max (reading.getD default.processPeriod.toNat) 1)) fun _ => rfl
  · exact follows_of_reading (Text.unsigned? UInt64.size)
      (·.toOption.map UInt64.ofNat) fun _ => rfl

/-- **Any environment yields settings that a chip can run with**, and each variable decides on one
of them. -/
theorem usable_in_any_environment :
    (∀ environment, AreUsable (ofEnvironment environment)) ∧
    (Follows "RD53_LISTEN" listen ∧ Follows "RD53_CHIP_ID" chipId ∧
      Follows "RD53_OUTPUT_MODE" outputMode ∧
      Follows "RD53_SERVICE_INTERVAL" serviceInterval ∧
      Follows "RD53_RANDOM_THRESHOLDS" randomThresholds ∧
      Follows "RD53_PIXEL_NOISE" pixelNoise ∧
      Follows "RD53_PROCESS_PERIOD_MS" processPeriod ∧ Follows "RD53_SEED" seed) ∧
    FollowsNumber "RD53_CHIP_ID" UInt8.size (·.chipId.toNat) (min · 7) ∧
    FollowsNumber "RD53_SERVICE_INTERVAL" UInt32.size (·.serviceInterval.toNat) (max · 1) ∧
    FollowsNumber "RD53_PROCESS_PERIOD_MS" UInt64.size (·.processPeriod.toNat) (max · 1) ∧
    FollowsNumber "RD53_SEED" UInt64.size (·.seed.map UInt64.toNat) some ∧
    FollowsMode "RD53_OUTPUT_MODE" outputMode :=
  ⟨areUsable_ofEnvironment, follows_own_variable, followsNumber_chipId,
    followsNumber_serviceInterval, followsNumber_processPeriod, followsNumber_seed,
    followsMode_outputMode⟩

/-- Between a wide blank and a line end, with a sign and zeros in front: 12 is more than the last
chip ID. -/
theorem usable_in_any_environment_past_last_chip :
    let environment : Environment :=
      unset (fun _ => some (Text.encodeUtf8 "\u3000+0012\n".toList)) "RD53_SEED"
    Denotes environment "RD53_CHIP_ID" UInt8.size 12 ∧
      (ofEnvironment environment).chipId.toNat = 7 := by
  intro environment
  have hdenotes : Denotes environment "RD53_CHIP_ID" UInt8.size 12 :=
    ⟨by decide, "+0012".toList, ⟨_, rfl, Text.isCore_iff.2 (by decide)⟩, [0, 0, 1, 2], by decide⟩
  exact ⟨hdenotes, usable_in_any_environment.2.2.1.of_denotes environment 12 hdenotes⟩

end Settings
end PixelChip
