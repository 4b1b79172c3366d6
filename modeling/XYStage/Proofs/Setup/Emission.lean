/-
# XYStage.Proofs.Setup.Emission -- the constants of an accepted configuration

What the constants of a board say is a baud rate, the motion parameters of both axes and
the thermistor channels (`BoardConstants`); what a configuration sets them to is
`BoardConstants.Configured`. Every part of an accepted configuration has what the
constants need, so the build writes them: the rate and the velocities are in range, and
the coefficients are those of the sections in single precision.

Validation looks at a coefficient in double precision, where more is finite. So the
coefficients are finite exactly if each is below `Double.singleOverflow`.

Main statement: `accepted_constants_emitted`.
-/
import XYStage.Proofs.Calibration.Saving
import XYStage.Proofs.Setup.Sections

namespace XYStage

set_option autoImplicit false

/-! ## Names in a configuration -/

/-- The name of an axis section. -/
def AxisId.sectionName : AxisId → String
  | .x => "x"
  | .y => "y"

/-- The key of a motion parameter in an axis section. -/
def AxisParameter.key : AxisParameter → String
  | .acceleration => "acceleration"
  | .startVelocity => "start_velocity"
  | .homeVelocity => "home_velocity"

theorem AxisId.sectionName_mem (id : AxisId) : id.sectionName ∈ Setup.axisNames := by
  cases id <;> decide

theorem AxisParameter.key_mem (param : AxisParameter) : param.key ∈ Setup.axisKeys := by
  cases param <;> decide

namespace Setup

/-- The value under a motion parameter of an axis section. -/
def parameter? (document : Value) (id : AxisId) (param : AxisParameter) : Option Value :=
  ((document.get? "axis").bind (·.get? id.sectionName)).bind (·.get? param.key)

/-- A coefficient of a channel that has a section, in double precision. -/
def channelCoefficient? (document : Value) (n : Nat) (key : String) : Option Double :=
  (namedSection? (toString n) document).bind fun value => (value.get? key).bind Value.double?

/-- The constants of a thermistor section. -/
def thermistor? (value : Value) : Option Thermistor := do
  let a ← coefficient? "a" value
  let b ← coefficient? "b" value
  let c ← coefficient? "c" value
  return ⟨a, b, c, enabled value⟩

/-! ## Constants and their text -/

/-- What the constants of a board say. -/
structure BoardConstants where
  rate : UInt32
  axes : AxisId → AxisRates
  /-- A channel without a section has no constants of its own. -/
  thermistors : Vector (Option Thermistor) channelCount

end Setup

def AxisRates.text (c : AxisRates) : String :=
  Setup.record "AxisCalibration"
    [("acceleration", toString c.acceleration.toNat),
      ("start_velocity", toString c.startVelocity.toNat),
      ("home_velocity", toString c.homeVelocity.toNat)]

def Thermistor.text (t : Thermistor) : String :=
  Setup.record "ThermistorCalibration"
    [("a", Setup.numberText t.a), ("b", Setup.numberText t.b), ("c", Setup.numberText t.c),
      ("enabled", toString t.enabled)]

namespace Setup

namespace BoardConstants

/-- The channel as the firmware gets it. -/
def thermistor (k : BoardConstants) (n : Nat) (h : n < channelCount) : Thermistor :=
  k.thermistors[n].getD .default

/-- The source text of the constants. -/
def text (k : BoardConstants) : String :=
  "// Generated from gantry.toml by build.rs\n" ++
  "\n" ++
  "use gantry_core::config::" ++ openBrace ++
    "AxisCalibration, Calibration, ThermistorCalibration" ++ closeBrace ++ ";\n" ++
  "\n" ++
  "pub const LINK_BAUDRATE: u32 = " ++ toString k.rate.toNat ++ ";\n" ++
  "\n" ++
  "pub const DEFAULT_CALIBRATION: Calibration = Calibration " ++ openBrace ++ "\n" ++
  listText "axes" (AxisId.all.map fun id => (k.axes id).text) ++
  listText "thermistors" (k.thermistors.toList.map fun t => t.elim defaultText Thermistor.text) ++
  closeBrace ++ ";\n"

/-- The constants are what a configuration sets them to: its integers, the coefficients
of the sections in single precision, and nothing for a channel without a section. -/
structure Configured (k : BoardConstants) (document : Value) : Prop where
  rate : (document.get? "link").bind (·.get? "baudrate") = some (.integer k.rate.toNat)
  axes : ∀ id param, parameter? document id param = some (.integer ((k.axes id).get param).toNat)
  thermistors : ∀ n (h : n < channelCount),
    (namedSection? (toString n) document).map thermistor? = k.thermistors[n].map some

/-- The link and the step generators can do what the constants say. -/
structure InRange (k : BoardConstants) : Prop where
  rate : 1200 ≤ k.rate ∧ k.rate ≤ 921600
  startVelocity : ∀ id, (k.axes id).startVelocity ≤ 50000
  homeVelocity : ∀ id, (k.axes id).homeVelocity ≤ 50000

end BoardConstants

/-! ## Accepted values -/

theorem count_of_countViolations {field : AxisField} {entries : Value}
    (h : countViolations field entries = []) :
    ∃ n : UInt32, entries.get? field.key = some (.integer n.toNat) := by
  unfold countViolations at h
  split at h
  · next value hget =>
    split at h
    · next hrange =>
      refine ⟨UInt32.ofNat value.toNat, ?_⟩
      rw [UInt32.toNat_ofNat_of_lt' (by show _ < 2 ^ 32; omega), Int.toNat_of_nonneg hrange.1]
      exact hget
    · cases h
  · cases h
  · cases h

theorem rate_in_range_of_linkViolations {document : Value} (h : linkViolations document = []) :
    ∃ rate : UInt32, (document.get? "link").bind (·.get? "baudrate") =
      some (.integer rate.toNat) ∧ 1200 ≤ rate ∧ rate ≤ 921600 := by
  unfold linkViolations at h
  split at h
  · next rate hget =>
    split at h
    · next hrange =>
      have hnat : (UInt32.ofNat rate.toNat).toNat = rate.toNat :=
        UInt32.toNat_ofNat_of_lt' (by show _ < 2 ^ 32; omega)
      refine ⟨UInt32.ofNat rate.toNat, ?_, ?_, ?_⟩
      · rw [hnat, Int.toNat_of_nonneg (by omega)]
        exact hget
      · rw [UInt32.le_iff_toNat_le, hnat]
        show 1200 ≤ _
        omega
      · rw [UInt32.le_iff_toNat_le, hnat]
        show _ ≤ 921600
        omega
    · cases h
  · cases h
  · cases h

theorem le_of_velocityViolations {field : AxisField} {entries : Value} {n : UInt32}
    (h : velocityViolations field entries = [])
    (hget : entries.get? field.key = some (.integer n.toNat)) : n ≤ 50000 := by
  unfold velocityViolations at h
  rw [hget] at h
  dsimp only at h
  split at h
  · cases h
  · rw [UInt32.le_iff_toNat_le]
    show _ ≤ 50000
    omega

/-- An accepted axis section has a count under every key, and its velocities are in
range. -/
theorem rates_of_axisViolations {document : Value} {id : AxisId}
    (h : axisViolations document id.sectionName = []) :
    ∃ c : AxisRates,
      (∀ param, parameter? document id param = some (.integer (c.get param).toNat)) ∧
      c.startVelocity ≤ 50000 ∧ c.homeVelocity ≤ 50000 := by
  unfold axisViolations at h
  split at h
  · next entries hget =>
    obtain ⟨hcounts, hvelocities⟩ := List.append_eq_nil_iff.mp h
    have hcount (param : AxisParameter) :=
      count_of_countViolations (List.flatMap_eq_nil_iff.mp hcounts param.key param.key_mem)
    have hvelocity := List.flatMap_eq_nil_iff.mp hvelocities
    obtain ⟨acceleration, h₁⟩ := hcount .acceleration
    obtain ⟨startVelocity, h₂⟩ := hcount .startVelocity
    obtain ⟨homeVelocity, h₃⟩ := hcount .homeVelocity
    refine ⟨⟨acceleration, startVelocity, homeVelocity⟩, fun param => ?_, ?_, ?_⟩
    · rw [parameter?, hget]
      cases param with
      | acceleration => exact h₁
      | startVelocity => exact h₂
      | homeVelocity => exact h₃
    · exact le_of_velocityViolations (hvelocity "start_velocity" (by decide)) h₂
    · exact le_of_velocityViolations (hvelocity "home_velocity" (by decide)) h₃
  · cases h
  · cases h

/-- An accepted section has constants. -/
theorem thermistor?_of_accepted {document : Value} (accepted : violations document = [])
    {name : String} {value : Value} (h : namedSection? name document = some value) :
    ∃ t, thermistor? value = some t := by
  obtain ⟨a, ha⟩ := coefficient_of_accepted accepted h (show "a" ∈ coefficientKeys by decide)
  obtain ⟨b, hb⟩ := coefficient_of_accepted accepted h (show "b" ∈ coefficientKeys by decide)
  obtain ⟨c, hc⟩ := coefficient_of_accepted accepted h (show "c" ∈ coefficientKeys by decide)
  rw [thermistor?, ha, hb, hc]
  exact ⟨_, rfl⟩

/-- The constants of a section are its coefficients and its flag. -/
theorem coefficients_of_thermistor? {value : Value} {t : Thermistor}
    (h : thermistor? value = some t) :
    coefficient? "a" value = some t.a ∧ coefficient? "b" value = some t.b ∧
      coefficient? "c" value = some t.c ∧ enabled value = t.enabled := by
  obtain ⟨a, ha, hrest⟩ := Option.bind_eq_some_iff.mp h
  obtain ⟨b, hb, hrest⟩ := Option.bind_eq_some_iff.mp hrest
  obtain ⟨c, hc, hrest⟩ := Option.bind_eq_some_iff.mp hrest
  obtain rfl := Option.some.inj hrest
  exact ⟨ha, hb, hc, rfl⟩

/-- A channel has no section and no constants of its own, or a section and its
constants. -/
theorem channel_cases {value? : Option Value} {t? : Option Thermistor}
    (h : value?.map thermistor? = t?.map some) :
    value? = none ∧ t? = none ∨
      ∃ value t, value? = some value ∧ t? = some t ∧ thermistor? value = some t := by
  cases value? with
  | none =>
      cases t? with
      | none => exact .inl ⟨rfl, rfl⟩
      | some t => cases h
  | some value =>
      cases t? with
      | none => cases h
      | some t => exact .inr ⟨value, t, rfl, rfl, Option.some.inj h⟩

/-! ## The text that is written -/

/-- A value under a motion parameter is a value under its key of the axis section. -/
theorem integerText?_of_parameter {document entries : Value} {id : AxisId}
    {param : AxisParameter} {n : Nat}
    (hsection : (document.get? "axis").bind (·.get? id.sectionName) = some entries)
    (h : parameter? document id param = some (.integer n)) :
    integerText? param.key entries = some (toString n) := by
  rw [parameter?, hsection] at h
  have hget : entries.get? param.key = some (.integer n) := h
  rw [integerText?, hget]
  rfl

theorem axisText?_of_rates {document : Value} {id : AxisId} {c : AxisRates}
    (h : ∀ param, parameter? document id param = some (.integer (c.get param).toNat)) :
    axisText? document id.sectionName = some c.text := by
  obtain ⟨entries, hsection, -⟩ := Option.bind_eq_some_iff.mp (h .acceleration)
  obtain ⟨axes, haxes, hentries⟩ := Option.bind_eq_some_iff.mp hsection
  have h₁ := integerText?_of_parameter hsection (h .acceleration)
  have h₂ := integerText?_of_parameter hsection (h .startVelocity)
  have h₃ := integerText?_of_parameter hsection (h .homeVelocity)
  dsimp only [AxisParameter.key] at h₁ h₂ h₃
  simp only [axisText?, haxes, hentries, h₁, h₂, h₃, Option.bind_eq_bind, Option.bind_some]
  rfl

theorem thermistorText?_of_thermistor {document : Value} {n : Nat} {t : Option Thermistor}
    (h : (namedSection? (toString n) document).map thermistor? = t.map some) :
    thermistorText? document n = some (t.elim defaultText Thermistor.text) := by
  rcases channel_cases h with ⟨hsection, rfl⟩ | ⟨value, t, hsection, rfl, hvalue⟩
  · exact thermistorText?_of_none hsection
  · obtain ⟨ha, hb, hc, henabled⟩ := coefficients_of_thermistor? hvalue
    have hchannel : channelSection? document n = some value := hsection
    simp only [thermistorText?, hchannel, ha, hb, hc, henabled, Option.bind_eq_bind,
      Option.bind_some]
    rfl

theorem mapM_range {α β : Type} (g : α → β) (l : List α) (f : Nat → Option β)
    (h : ∀ n (hn : n < l.length), f n = some (g l[n])) :
    (List.range l.length).mapM f = some (l.map g) := by
  induction l generalizing f with
  | nil => rfl
  | cons a l ih =>
      have hhead : f 0 = some (g a) := h 0 (Nat.zero_lt_succ _)
      have htail := ih (f ∘ Nat.succ) fun n hn => h (n + 1) (Nat.succ_lt_succ hn)
      rw [List.length_cons, List.range_succ_eq_map, List.mapM_cons, hhead, List.mapM_map, htail]
      rfl

/-- Constants that are what a configuration sets them to are written for it. -/
theorem BoardConstants.Configured.constants {k : BoardConstants} {document : Value}
    (h : k.Configured document) : constants? document = some k.text := by
  obtain ⟨link, hlink, hbaudrate⟩ := Option.bind_eq_some_iff.mp h.rate
  have hrate : integerText? "baudrate" link = some (toString k.rate.toNat) := by
    rw [integerText?, hbaudrate]
    rfl
  have hx : axisText? document "x" = some (k.axes .x).text := axisText?_of_rates (h.axes .x)
  have hy : axisText? document "y" = some (k.axes .y).text := axisText?_of_rates (h.axes .y)
  have haxes : ["x", "y"].mapM (axisText? document) =
      some (AxisId.all.map fun id => (k.axes id).text) := by
    simp [hx, hy, AxisId.all]
  have hchannels : (List.range 5).mapM (thermistorText? document) =
      some (k.thermistors.toList.map fun t => t.elim defaultText Thermistor.text) := by
    have hlength : k.thermistors.toList.length = 5 := k.thermistors.length_toList
    rw [← hlength]
    refine mapM_range _ _ _ fun n hn => ?_
    rw [Vector.getElem_toList]
    exact thermistorText?_of_thermistor (h.thermistors n (hn.trans_eq hlength))
  simp only [constants?, hlink, Option.bind_some, hrate, haxes, hchannels, Option.bind_eq_bind]
  rfl

/-- An accepted configuration sets all constants, and the integers are in range. -/
theorem exists_configured {document : Value} (accepted : violations document = []) :
    ∃ k : BoardConstants, k.Configured document ∧ k.InRange := by
  obtain ⟨hlink, haxes, -⟩ := violations_eq_nil.mp accepted
  obtain ⟨rate, hrate, hlow, hhigh⟩ := rate_in_range_of_linkViolations hlink
  have haxis (id : AxisId) := rates_of_axisViolations (haxes id.sectionName id.sectionName_mem)
  obtain ⟨rates, hrates⟩ := Classical.skolem.mp haxis
  have hchannel (n : Nat) : ∃ t : Option Thermistor,
      (namedSection? (toString n) document).map thermistor? = t.map some := by
    cases hsection : namedSection? (toString n) document with
    | none => exact ⟨none, rfl⟩
    | some value =>
        obtain ⟨t, ht⟩ := thermistor?_of_accepted accepted hsection
        exact ⟨some t, congrArg some ht⟩
  obtain ⟨channels, hchannels⟩ := Classical.skolem.mp hchannel
  refine ⟨⟨rate, rates, Vector.ofFn fun n => channels n⟩, ⟨hrate, fun id => (hrates id).1, ?_⟩,
    ⟨⟨hlow, hhigh⟩, fun id => (hrates id).2.1, fun id => (hrates id).2.2⟩⟩
  intro n hn
  rw [hchannels n, Vector.getElem_ofFn]

/-! ## Coefficients in single precision -/

/-- A coefficient of a section in single precision is its double narrowed. -/
theorem isFinite_coefficient_iff {document value : Value} {n : Nat} {key : String} {x : Single}
    (hsection : namedSection? (toString n) document = some value)
    (h : coefficient? key value = some x) :
    x.isFinite = true ↔ ∀ y, channelCoefficient? document n key = some y →
      y.magnitude < Double.singleOverflow := by
  obtain ⟨y, hy, rfl⟩ := Option.map_eq_some_iff.mp h
  have hdouble : channelCoefficient? document n key = some y := by
    rw [channelCoefficient?, hsection]
    exact hy
  rw [hdouble, Double.isFinite_toSingle_iff]
  constructor
  · rintro hsmall z hz
    rwa [← Option.some.inj hz]
  · intro hall
    exact hall y rfl

/-- A channel has finite coefficients exactly if none of its section is too large. -/
theorem BoardConstants.Configured.isFinite_iff {k : BoardConstants} {document : Value}
    (h : k.Configured document) (n : Nat) (hn : n < channelCount) :
    (k.thermistor n hn).IsFinite ↔ ∀ key ∈ coefficientKeys, ∀ x,
      channelCoefficient? document n key = some x → x.magnitude < Double.singleOverflow := by
  rw [BoardConstants.thermistor]
  rcases channel_cases (h.thermistors n hn) with ⟨hsection, ht⟩ | ⟨value, t, hsection, ht, hvalue⟩
  · have hnone (key : String) : channelCoefficient? document n key = none := by
      rw [channelCoefficient?, hsection]
      rfl
    rw [ht]
    simp only [hnone]
    constructor
    · intro _ _ _ _ hx
      cases hx
    · intro _
      exact Thermistor.isFinite_default
  · obtain ⟨ha, hb, hc, -⟩ := coefficients_of_thermistor? hvalue
    rw [ht]
    constructor
    · rintro ⟨hfa, hfb, hfc⟩ key hkey
      simp only [coefficientKeys, List.mem_cons, List.not_mem_nil, or_false] at hkey
      obtain rfl | rfl | rfl := hkey
      · exact (isFinite_coefficient_iff hsection ha).mp hfa
      · exact (isFinite_coefficient_iff hsection hb).mp hfb
      · exact (isFinite_coefficient_iff hsection hc).mp hfc
    · intro hsmall
      exact ⟨(isFinite_coefficient_iff hsection ha).mpr (hsmall "a" (by decide)),
        (isFinite_coefficient_iff hsection hb).mpr (hsmall "b" (by decide)),
        (isFinite_coefficient_iff hsection hc).mpr (hsmall "c" (by decide))⟩

/-! ## What the build writes -/

/-- **The constants of an accepted configuration.** The build succeeds and writes the
constants that the configuration sets: a baud rate and velocities in range, the integers
of both axes, and for each channel the flag and the coefficients of its section in single
precision, or the default. Every coefficient is finite exactly if none of the
configuration is `2 ^ 128 - 2 ^ 103` or more in size. -/
theorem accepted_constants_emitted (document : Value) (accepted : violations document = [])
    (logging : Bool) :
    ∃ k : BoardConstants,
      build logging (some document) = (announcements logging ++ [validated], .ok ⟨k.text, true⟩) ∧
      k.Configured document ∧ k.InRange ∧
      ((∀ n (h : n < channelCount), (k.thermistor n h).IsFinite) ↔
        ∀ n < channelCount, ∀ key ∈ coefficientKeys, ∀ x,
          channelCoefficient? document n key = some x → x.magnitude < Double.singleOverflow) := by
  obtain ⟨k, hconfigured, hrange⟩ := exists_configured accepted
  refine ⟨k, ?_, hconfigured, hrange, forall₂_congr hconfigured.isFinite_iff⟩
  have hconstants := hconfigured.constants
  simp only [build, accepted, hconstants]

/-- A configuration whose only thermistor section, of channel 0, has a coefficient given. -/
def withCoefficient (a : Double) : Value :=
  let axis : Value := .table [("acceleration", .integer 10), ("home_velocity", .integer 200),
    ("start_velocity", .integer 50)]
  .table [("axis", .table [("x", axis), ("y", axis)]),
    ("link", .table [("baudrate", .integer 115200)]),
    ("thermistor", .table [("0", .table [("a", .float a), ("b", .float ⟨0x3f2c714fce746cb9⟩),
      ("c", .float ⟨0x3e77e4088ed60267⟩), ("enabled", .boolean true)])])]

/-- The largest double that single precision holds. -/
theorem largest_coefficient_emitted :
    ∃ k : BoardConstants,
      build false (some (withCoefficient ⟨0x47efffffefffffff⟩)) =
        (announcements false ++ [validated], .ok ⟨k.text, true⟩) ∧
      ∀ n (h : n < channelCount), (k.thermistor n h).IsFinite := by
  obtain ⟨k, hbuild, -, -, hfinite⟩ :=
    accepted_constants_emitted (withCoefficient ⟨0x47efffffefffffff⟩) rfl false
  refine ⟨k, hbuild, hfinite.mpr fun n hn key hkey x hx => ?_⟩
  have hall : ∀ n < channelCount, ∀ key ∈ coefficientKeys,
      (channelCoefficient? (withCoefficient ⟨0x47efffffefffffff⟩) n key).all
        (fun x => decide (x.magnitude < Double.singleOverflow)) = true := by
    decide +kernel
  have hsmall := hall n hn key hkey
  rw [hx, Option.all_some, decide_eq_true_iff] at hsmall
  exact hsmall

/-- A coefficient of `1e300` is accepted, and written as infinite. -/
theorem infinite_coefficient_emitted :
    violations (withCoefficient ⟨0x7e37e43c8800759c⟩) = [] ∧
      thermistorText? (withCoefficient ⟨0x7e37e43c8800759c⟩) 0 =
        some (record "ThermistorCalibration"
          [("a", "inf"), ("b", "0.000217"), ("c", "8.9e-8"), ("enabled", "true")]) ∧
      ∀ k : BoardConstants, k.Configured (withCoefficient ⟨0x7e37e43c8800759c⟩) →
        ¬ (k.thermistor 0 (by decide)).IsFinite := by
  refine ⟨rfl, by decide +kernel, fun k hconfigured hfinite => ?_⟩
  have hsmall := (hconfigured.isFinite_iff 0 (by decide)).mp hfinite "a" (by decide) _ rfl
  revert hsmall
  decide +kernel

end Setup

end XYStage
