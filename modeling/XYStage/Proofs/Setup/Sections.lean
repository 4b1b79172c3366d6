/-
# XYStage.Proofs.Setup.Sections -- what becomes of the thermistor sections

A configuration with nothing wrong is accepted, and then has its constants. Validation
takes the name of a thermistor section for a number, so `1`, `01` and `+1` all denote
channel 1; the constants of a channel are taken from the section that has its number in
plain digits for a name. A section with another name is accepted and never looked at.

Main statement: every section is taken for the channel that its name denotes, and only
channels without one get the default, exactly if every name is in plain digits
(`sections_honoured_iff_plain`). A configuration with a section named `01` is accepted
all the same (`padded_section_ignored`).
-/
import XYStage.Setup.Build

namespace XYStage

set_option autoImplicit false

namespace Setup

/-! ## Names that are numbers -/

theorem toDigits_ne_plus (n : Nat) (rest : List Char) : Nat.toDigits 10 n ≠ '+' :: rest := by
  intro h
  have hdigit : ('+').isDigit = true :=
    Nat.isDigit_of_mem_toDigits (by decide) (by decide) (h ▸ List.mem_cons_self)
  revert hdigit
  decide

/-- A number is read back from its plain digits. -/
theorem channelNumber?_toString (n : Nat) :
    channelNumber? (toString n) = if n < UInt64.size then some n else none := by
  have hchars : (toString n).toList = Nat.toDigits 10 n := Nat.toList_repr
  have hall : (Nat.toDigits 10 n).all Char.isDigit = true :=
    List.all_eq_true.mpr fun c hc => Nat.isDigit_of_mem_toDigits (by decide) (by decide) hc
  unfold channelNumber?
  extract_lets digits value
  have hdigits : digits = Nat.toDigits 10 n := by
    unfold digits
    rw [hchars]
    split
    · next rest h => exact absurd h (toDigits_ne_plus n rest)
    · rfl
  have hvalue : value = n := by
    unfold value
    rw [hdigits]
    exact Nat.ofDigitChars_eq_foldl.symm.trans Nat.ofDigitChars_ten_toDigits
  simp [hdigits, hall, hvalue, Nat.toDigits_ne_nil]

/-! ## Looking up a table -/

/-- The thermistor section of a name. -/
def namedSection? (name : String) (document : Value) : Option Value :=
  (document.get? "thermistor").bind (·.get? name)

theorem Value.mem_of_get? {key : String} {entries : List (String × Value)} {value : Value}
    (h : (Value.table entries).get? key = some value) : (key, value) ∈ entries := by
  obtain ⟨entry, hfind, rfl⟩ := Option.map_eq_some_iff.mp h
  have hkey : entry.1 = key := by simpa using List.find?_some hfind
  rw [← hkey]
  exact List.mem_of_find?_eq_some hfind

/-! ## What is accepted -/

theorem integer_of_countViolations {field : AxisField} {entries : Value}
    (h : countViolations field entries = []) :
    ∃ value, entries.get? field.key = some (.integer value) := by
  unfold countViolations at h
  split at h
  · next value hget => exact ⟨value, hget⟩
  · cases h
  · cases h

theorem rate_of_linkViolations {document : Value} (h : linkViolations document = []) :
    ∃ rate, (document.get? "link").bind (·.get? "baudrate") = some (.integer rate) := by
  unfold linkViolations at h
  split at h
  · next rate hget => exact ⟨rate, hget⟩
  · cases h
  · cases h

theorem axisText?_of_axisViolations {document : Value} {axis : String}
    (h : axisViolations document axis = []) : ∃ text, axisText? document axis = some text := by
  unfold axisViolations at h
  split at h
  · next entries hget =>
    obtain ⟨axes, haxes, hentries⟩ := Option.bind_eq_some_iff.mp hget
    have hcount (key : String) (hkey : key ∈ axisKeys) :
        ∃ text, integerText? key (.table entries) = some text := by
      obtain ⟨value, hvalue⟩ := integer_of_countViolations
        (List.flatMap_eq_nil_iff.mp (List.append_eq_nil_iff.mp h).1 key hkey)
      exact ⟨toString value, by rw [integerText?, hvalue]⟩
    obtain ⟨acceleration, h₁⟩ := hcount "acceleration" (by decide)
    obtain ⟨startVelocity, h₂⟩ := hcount "start_velocity" (by decide)
    obtain ⟨homeVelocity, h₃⟩ := hcount "home_velocity" (by decide)
    simp only [axisText?, haxes, hentries, h₁, h₂, h₃, Option.bind_eq_bind, Option.bind_some]
    exact ⟨_, rfl⟩
  · cases h
  · cases h

theorem coefficient_of_violations {name key : String} {value : Value}
    (h : coefficientViolations name value key = []) : ∃ x, coefficient? key value = some x := by
  unfold coefficientViolations at h
  split at h
  · next x hget => exact ⟨x.toSingle, by rw [coefficient?, hget]; rfl⟩
  · next n hget => exact ⟨(Double.ofInt n).toSingle, by rw [coefficient?, hget]; rfl⟩
  · cases h
  · cases h

/-- The text has the constants of a section: its coefficients in single precision, and
whether it puts its channel to use. -/
def Calibrates (value : Value) (text : String) : Prop :=
  ∃ a b c, coefficient? "a" value = some a ∧ coefficient? "b" value = some b ∧
    coefficient? "c" value = some c ∧
    text = record "ThermistorCalibration"
      [("a", numberText a), ("b", numberText b), ("c", numberText c),
        ("enabled", toString (enabled value))]

def defaultText : String := "gantry_core::config::DEFAULT_THERMISTOR"

/-- The constants of a section are written out, and start with another letter. -/
theorem Calibrates.ne_default {value : Value} {text : String} (h : Calibrates value text) :
    text ≠ defaultText := by
  obtain ⟨a, b, c, -, -, -, rfl⟩ := h
  intro hsame
  have hfirst := congrArg (·.toList.head?) hsame
  simp [record, defaultText, String.toList_append] at hfirst

/-- A configuration is accepted if each of its parts is. -/
theorem violations_eq_nil {document : Value} :
    violations document = [] ↔ linkViolations document = [] ∧
      (∀ axis ∈ axisNames, axisViolations document axis = []) ∧
      thermistorViolations document = [] := by
  rw [violations, List.append_eq_nil_iff, List.append_eq_nil_iff, List.flatMap_eq_nil_iff,
    and_assoc]

theorem thermistorText?_of_none {document : Value} {n : Nat}
    (h : namedSection? (toString n) document = none) :
    thermistorText? document n = some defaultText := by
  have hchannel : channelSection? document n = none := h
  rw [thermistorText?, hchannel]
  rfl

section Accepted

variable {document : Value} (accepted : violations document = [])
include accepted

theorem sectionViolations_of_accepted {name : String} {value : Value}
    (h : namedSection? name document = some value) : sectionViolations name value = [] := by
  obtain ⟨sections, hsections, hvalue⟩ := Option.bind_eq_some_iff.mp h
  have hnone := (violations_eq_nil.mp accepted).2.2
  unfold thermistorViolations at hnone
  rw [hsections] at hnone
  cases sections with
  | table entries =>
      exact List.flatMap_eq_nil_iff.mp hnone (name, value) (Value.mem_of_get? hvalue)
  | _ => cases hvalue

/-- The name of an accepted section denotes a channel. -/
theorem channel_of_accepted {name : String} {value : Value}
    (h : namedSection? name document = some value) : ∃ n < 5, channelNumber? name = some n := by
  have hsection := sectionViolations_of_accepted accepted h
  unfold sectionViolations at hsection
  have hchannel := (List.append_eq_nil_iff.mp hsection).1
  split at hchannel
  · next n hn =>
    split at hchannel
    · next hlt => exact ⟨n, hlt, hn⟩
    · cases hchannel
  · cases hchannel

/-- An accepted section has every coefficient. -/
theorem coefficient_of_accepted {name : String} {value : Value}
    (h : namedSection? name document = some value) {key : String} (hkey : key ∈ coefficientKeys) :
    ∃ x, coefficient? key value = some x := by
  have hsection := sectionViolations_of_accepted accepted h
  unfold sectionViolations at hsection
  have hvalue := (List.append_eq_nil_iff.mp hsection).2
  split at hvalue
  · have hkeys := List.flatMap_eq_nil_iff.mp (List.append_eq_nil_iff.mp hvalue).1
    exact coefficient_of_violations (hkeys key hkey)
  · cases hvalue

theorem thermistorText?_of_section {n : Nat} {value : Value}
    (h : namedSection? (toString n) document = some value) :
    ∃ text, thermistorText? document n = some text ∧ Calibrates value text := by
  obtain ⟨a, ha⟩ := coefficient_of_accepted accepted h (show "a" ∈ coefficientKeys by decide)
  obtain ⟨b, hb⟩ := coefficient_of_accepted accepted h (show "b" ∈ coefficientKeys by decide)
  obtain ⟨c, hc⟩ := coefficient_of_accepted accepted h (show "c" ∈ coefficientKeys by decide)
  have hchannel : channelSection? document n = some value := h
  refine ⟨_, ?_, a, b, c, ha, hb, hc, rfl⟩
  simp only [thermistorText?, hchannel, ha, hb, hc, Option.bind_eq_bind, Option.bind_some]
  rfl

theorem thermistorText?_of_accepted (n : Nat) :
    ∃ text, thermistorText? document n = some text := by
  cases hsection : namedSection? (toString n) document with
  | none => exact ⟨_, thermistorText?_of_none hsection⟩
  | some value =>
      obtain ⟨text, htext, -⟩ := thermistorText?_of_section accepted hsection
      exact ⟨text, htext⟩

/-- A channel has the default exactly if no section has its plain digits for a name. -/
theorem default_iff {n : Nat} : thermistorText? document n = some defaultText ↔
    namedSection? (toString n) document = none := by
  constructor
  · intro hdefault
    cases hsection : namedSection? (toString n) document with
    | none => rfl
    | some value =>
        obtain ⟨text, htext, hcalibrates⟩ := thermistorText?_of_section accepted hsection
        exact absurd (Option.some.inj (htext.symm.trans hdefault)) hcalibrates.ne_default
  · exact thermistorText?_of_none

/-- **An accepted configuration has its constants**, and among them those of every
channel in their order. -/
theorem constants_of_accepted : ∃ texts before after,
    (∀ n, thermistorText? document n = some (texts n)) ∧
    constants? document =
      some (before ++ listText "thermistors" ((List.range 5).map texts) ++ after) := by
  obtain ⟨hlink, haxes, -⟩ := violations_eq_nil.mp accepted
  obtain ⟨rate, hrate⟩ := rate_of_linkViolations hlink
  obtain ⟨link, hget, hbaudrate⟩ := Option.bind_eq_some_iff.mp hrate
  have hratetext : integerText? "baudrate" link = some (toString rate) := by
    rw [integerText?, hbaudrate]
  obtain ⟨x, hx⟩ := axisText?_of_axisViolations (haxes "x" (by decide))
  obtain ⟨y, hy⟩ := axisText?_of_axisViolations (haxes "y" (by decide))
  have hpair : ["x", "y"].mapM (axisText? document) = some [x, y] := by
    simp [hx, hy]
  obtain ⟨texts, htexts⟩ := Classical.skolem.mp (thermistorText?_of_accepted accepted)
  have hall : (List.range 5).mapM (thermistorText? document) =
      some ((List.range 5).map texts) := by
    rw [funext htexts]
    exact List.mapM_pure
  refine ⟨texts, ?_⟩
  simp only [constants?, hget, Option.bind_some, hratetext, hpair, hall, Option.bind_eq_bind]
  exact ⟨_, closeBrace ++ ";\n", htexts, congrArg some (String.append_assoc ..)⟩

end Accepted

/-! ## Sections and channels -/

/-- Every section is taken for the channel that its name denotes: its constants are the
channel's, no other section denotes the same channel, and only channels without a
section get the default. -/
structure Honoured (document : Value) : Prop where
  determines : ∀ name value, namedSection? name document = some value →
    ∃ n < 5, channelNumber? name = some n ∧
      ∃ text, thermistorText? document n = some text ∧ Calibrates value text
  distinct : ∀ name other value another, namedSection? name document = some value →
    namedSection? other document = some another → channelNumber? name = channelNumber? other →
    name = other
  defaults : ∀ n < 5, thermistorText? document n = some defaultText ↔
    ∀ name value, namedSection? name document = some value → channelNumber? name ≠ some n

section Accepted

variable {document : Value} (accepted : violations document = [])
include accepted

/-- Plain digits denote the number that they were written for. -/
theorem channelNumber?_of_accepted {n : Nat} {value : Value}
    (h : namedSection? (toString n) document = some value) :
    n < 5 ∧ channelNumber? (toString n) = some n := by
  obtain ⟨m, hlt, hm⟩ := channel_of_accepted accepted h
  rw [channelNumber?_toString] at hm ⊢
  split at hm
  · next hsize =>
    cases hm
    exact ⟨hlt, if_pos hsize⟩
  · cases hm

theorem honoured_of_plain (plain : ∀ name value, namedSection? name document = some value →
    ∃ n : Nat, name = toString n) : Honoured document where
  determines name value hsection := by
    obtain ⟨n, rfl⟩ := plain name value hsection
    obtain ⟨hlt, hname⟩ := channelNumber?_of_accepted accepted hsection
    exact ⟨n, hlt, hname, thermistorText?_of_section accepted hsection⟩
  distinct name other value another hsection hother hsame := by
    obtain ⟨n, rfl⟩ := plain name value hsection
    obtain ⟨m, rfl⟩ := plain other another hother
    rw [(channelNumber?_of_accepted accepted hsection).2,
      (channelNumber?_of_accepted accepted hother).2] at hsame
    rw [Option.some.inj hsame]
  defaults n hlt := by
    rw [default_iff accepted]
    constructor
    · intro hnone name value hsection hname
      obtain ⟨m, rfl⟩ := plain name value hsection
      rw [(channelNumber?_of_accepted accepted hsection).2] at hname
      cases hname
      rw [hnone] at hsection
      cases hsection
    · intro hnone
      cases hsection : namedSection? (toString n) document with
      | none => rfl
      | some value =>
          exact absurd (channelNumber?_of_accepted accepted hsection).2 (hnone _ value hsection)

theorem Honoured.plain (h : Honoured document) {name : String} {value : Value}
    (hsection : namedSection? name document = some value) : ∃ n : Nat, name = toString n := by
  obtain ⟨n, -, hname, text, htext, hcalibrates⟩ := h.determines name value hsection
  cases hdigits : namedSection? (toString n) document with
  | none =>
      have hdefault := htext.symm.trans (thermistorText?_of_none hdigits)
      exact absurd (Option.some.inj hdefault) hcalibrates.ne_default
  | some another =>
      have hsame := hname.trans (channelNumber?_of_accepted accepted hdigits).2.symm
      exact ⟨n, h.distinct _ _ value another hsection hdigits hsame⟩

end Accepted

/-- **What becomes of the thermistor sections of an accepted configuration.** The name
of each denotes a channel. The constants of a channel are those of the section that has
its number in plain digits for a name, and the default if there is none. So every section
is honoured exactly if every one has plain digits for a name. -/
theorem sections_honoured_iff_plain (document : Value) (accepted : violations document = []) :
    (∀ name value, namedSection? name document = some value →
      ∃ n < 5, channelNumber? name = some n) ∧
    (∃ texts before after, (∀ n, thermistorText? document n = some (texts n)) ∧
      constants? document =
        some (before ++ listText "thermistors" ((List.range 5).map texts) ++ after)) ∧
    (∀ (n : Nat) value, namedSection? (toString n) document = some value →
      ∃ text, thermistorText? document n = some text ∧ Calibrates value text) ∧
    (∀ n : Nat, thermistorText? document n = some defaultText ↔
      namedSection? (toString n) document = none) ∧
    (Honoured document ↔
      ∀ name value, namedSection? name document = some value → ∃ n : Nat, name = toString n) :=
  ⟨fun _ _ => channel_of_accepted accepted, constants_of_accepted accepted,
    fun _ _ => thermistorText?_of_section accepted, fun _ => default_iff accepted,
    fun h _ _ => h.plain accepted, honoured_of_plain accepted⟩

/-! ## One section -/

/-- A configuration with one thermistor section. -/
def withSection (name : String) : Value :=
  let axis : Value := .table [("acceleration", .integer 10), ("home_velocity", .integer 200),
    ("start_velocity", .integer 50)]
  .table [("axis", .table [("x", axis), ("y", axis)]),
    ("link", .table [("baudrate", .integer 115200)]),
    ("thermistor", .table [(name, .table [("a", .float ⟨0x3f47a89331a08bfc⟩),
      ("b", .float ⟨0x3f2c714fce746cb9⟩), ("c", .float ⟨0x3e77e4088ed60267⟩),
      ("enabled", .boolean true)])])]

theorem plain_section_honoured :
    violations (withSection "1") = [] ∧ Honoured (withSection "1") := by
  refine ⟨rfl, (sections_honoured_iff_plain (withSection "1") rfl).2.2.2.2.mpr ?_⟩
  intro name value hsection
  have hmem : (name, value) ∈ [("1", _)] := Value.mem_of_get? hsection
  exact ⟨1, congrArg Prod.fst (List.mem_singleton.mp hmem)⟩

/-- With a zero before its digit the section is accepted for channel 1, which is given the
default. -/
theorem padded_section_ignored :
    violations (withSection "01") = [] ∧ (namedSection? "01" (withSection "01")).isSome ∧
      channelNumber? "01" = some 1 ∧
      thermistorText? (withSection "01") 1 = some defaultText ∧
      ¬ Honoured (withSection "01") := by
  refine ⟨rfl, rfl, by decide, rfl, fun h => ?_⟩
  exact (h.defaults 1 (by decide)).mp rfl "01" _ rfl (by decide)

end Setup

end XYStage
