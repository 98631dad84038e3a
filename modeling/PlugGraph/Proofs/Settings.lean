import Mathlib.Tactic.ByContra
import PlugGraph.Settings

/-!
# What becomes of a document

A document either gives settings, which are those that its table spells out, or it ends in an error.
The error is a report of a setting that is not what it has to be, as long as there is a table where
one is due and no integer is beyond the range of numbers (`Settings.ofDocument_reads`). Otherwise it
is an error of the reading itself.
-/

namespace PlugGraph

namespace Double

theorem unpack_zero : (0 : Float).toModel.unpack = .zero .positive := by rfl

/-- A finite number is either positive or at most zero. -/
theorem pos_iff_not_le_zero {x : Float} (finite : Scalar.isFinite x = true) : 0 < x ↔ ¬ x ≤ 0 := by
  have number : x.isNaN = false ∧ x.isInf = false := by
    simp only [Scalar.isFinite, Scalar.nonFinite?, Double.nonFinite?] at finite
    cases nan : x.isNaN <;> cases inf : x.isInf <;> simp_all
  have shapes : (0 : Float).toModel.unpack.lt x.toModel.unpack = true ↔
      ¬ x.toModel.unpack.le (0 : Float).toModel.unpack = true := by
    unfold Float.isNaN Float.isInf Float.Model.isNaN Float.Model.isInf at number
    rw [unpack_zero]
    generalize x.toModel.unpack = shape at *
    -- Only zeros and finite numbers are left, which zero is compared with by their sign.
    cases shape with
    | infinity => exact absurd (show true = false from number.2) (by decide)
    | notANumber => exact absurd (show true = false from number.1) (by decide)
    | zero sign => cases sign <;> decide
    | finite sign =>
      cases sign with
      | negative => exact iff_of_false (show ¬ false = true by decide) (fun above => above rfl)
      | positive => exact iff_of_true rfl (show ¬ false = true by decide)
  exact decide_eq_true_iff.trans (shapes.trans (not_congr decide_eq_true_iff.symm))

end Double

namespace Settings

/-! ### What settings have to be -/

/-- A value is a number of the range of floats. -/
def IsNumber (value : Value) (x : Float) : Prop :=
  ((∃ n, value = .integer n ∧ x = Double.ofInteger n) ∨ value = .number x) ∧
    Scalar.isFinite x = true

/-- A value is a number by which frames can go on. -/
def IsStep (value : Value) (x : Float) : Prop := IsNumber value x ∧ 0 < x

/-- A value is the text of a path, which starts at `root` if it is relative. -/
def IsPath (root : Path) (value : Value) (path : Path) : Prop :=
  ∃ text, value = .string text ∧
    path = if (Path.ofText text).isAbsolute then .ofText text
      else { root with parts := root.parts ++ (Path.ofText text).parts }

def IsTexts (value : Value) (texts : List String) : Prop := value = .array (texts.map .string)

/-- A value is what a setting has to be. -/
def Fits : Expected → Value → Prop
  | .path, value => ∃ text, value = .string text
  | .finiteNumber, value => ∃ x, IsNumber value x
  | .positiveNumber, value => ∃ x, IsStep value x
  | .listOfTexts, value => ∃ texts, IsTexts value texts

/-- The settings are those of a table: each is missing or has the value that the table gives. -/
structure Reads (root : Path) (table : List (String × Value)) (settings : Settings) : Prop where
  scene : Option.Rel (IsPath root) (Assoc.get? "scene" table) settings.scene
  output : Option.Rel (IsPath root) (Assoc.get? "output" table) settings.output
  first : Option.Rel IsNumber (Assoc.get? "start" table) settings.first
  last : Option.Rel IsNumber (Assoc.get? "end" table) settings.last
  step : Option.Rel IsStep (Assoc.get? "step" table) settings.step
  plugs : IsTexts ((Assoc.get? "plugs" table).getD (.array [])) settings.plugs
  root : settings.root = some root

def requirements : List (String × Expected) :=
  [("step", .finiteNumber), ("step", .positiveNumber), ("scene", .path), ("output", .path),
    ("start", .finiteNumber), ("end", .finiteNumber), ("plugs", .listOfTexts)]

/-- An error names a setting of the table and what it has to be, which it is not. -/
def Reports (table : List (String × Value)) (error : SettingsError) : Prop :=
  ∃ key expected value, error = .invalid key expected ∧ (key, expected) ∈ requirements ∧
    Assoc.get? key table = some value ∧ ¬ Fits expected value

/-- A table holds an integer beyond the range of floats where a number is due. -/
def HoldsHuge (table : List (String × Value)) : Prop :=
  ∃ key n, (key, Expected.finiteNumber) ∈ requirements ∧
    Assoc.get? key table = some (.integer n) ∧ Scalar.isFinite (Double.ofInteger n) = false

/-! ### Results and errors together -/

/-- What holds of a result, and what of an error. -/
inductive Ends {β : Type} (good : β → Prop) (bad : SettingsError → Prop) :
    Except SettingsError β → Prop
  | ok {result : β} (h : good result) : Ends good bad (.ok result)
  | error {error : SettingsError} (h : bad error) : Ends good bad (.error error)

namespace Ends

variable {β γ : Type} {good : β → Prop} {good' : γ → Prop} {bad bad' : SettingsError → Prop}

theorem bind {x : Except SettingsError β} {next : β → Except SettingsError γ}
    (first : Ends good bad x) (later : ∀ result, good result → Ends good' bad (next result)) :
    Ends good' bad (x >>= next) := by
  cases first with
  | ok result => exact later _ result
  | error error => exact .error error

theorem mono {x : Except SettingsError β} {good' : β → Prop} (h : Ends good bad x)
    (result : ∀ r, good r → good' r) (error : ∀ e, bad e → bad' e) : Ends good' bad' x := by
  cases h with
  | ok h => exact .ok (result _ h)
  | error h => exact .error (error _ h)

end Ends

/-! ### Settings in a table -/

section Table

variable {root : Path} {table : List (String × Value)} {key : String} {value : Value}

/-- What reading a table may end in. -/
def Flawed (table : List (String × Value)) (error : SettingsError) : Prop :=
  Reports table error ∨ error = .integerTooLarge ∧ HoldsHuge table

theorem IsNumber.unique {x y : Float} (h : IsNumber value x) (h' : IsNumber value y) : x = y := by
  obtain ⟨⟨n, rfl, rfl⟩ | rfl, -⟩ := h
  · obtain ⟨⟨m, same, rfl⟩ | other, -⟩ := h'
    · rw [Value.integer.inj same]
    · cases other
  · obtain ⟨⟨m, other, -⟩ | same, -⟩ := h'
    · cases other
    · exact Value.number.inj same

theorem IsNumber.isFinite {n : Int} {x : Float} (h : IsNumber (.integer n) x) :
    Scalar.isFinite (Double.ofInteger n) = true := by
  obtain ⟨⟨m, same, rfl⟩ | other, finite⟩ := h
  · rwa [Value.integer.inj same]
  · cases other

/-- Settings are only read from integers that are numbers. -/
theorem Reads.not_holdsHuge {settings : Settings} (h : Reads root table settings) :
    ¬ HoldsHuge table := by
  rintro ⟨key, n, required, found, huge⟩
  have unread {is : Value → Float → Prop}
      (number : ∀ x, is (.integer n) x → IsNumber (.integer n) x) {x? : Option Float}
      (read : Option.Rel is (Assoc.get? key table) x?) : False := by
    rw [found] at read
    cases read with
    | some h => exact absurd (number _ h).isFinite (Bool.eq_false_iff.mp huge)
  have numeric : key = "step" ∨ key = "start" ∨ key = "end" := by
    simpa [requirements] using required
  rcases numeric with rfl | rfl | rfl
  · exact unread (fun _ => And.left) h.step
  · exact unread (fun _ => id) h.first
  · exact unread (fun _ => id) h.last

theorem ends_number? (required : (key, .finiteNumber) ∈ requirements)
    (found : Assoc.get? key table = some value) :
    Ends (IsNumber value) (Flawed table) (number? key value) := by
  have report (unfit : ¬ Fits .finiteNumber value) :
      Flawed table (.invalid key .finiteNumber) :=
    .inl ⟨key, .finiteNumber, value, rfl, required, found, unfit⟩
  unfold number?
  split
  · next n =>
    dsimp only
    split
    · next finite => exact .ok ⟨.inl ⟨n, rfl, rfl⟩, finite⟩
    · next infinite =>
      exact .error (.inr ⟨rfl, key, n, required, found, Bool.eq_false_iff.mpr infinite⟩)
  · next x =>
    split
    · next finite => exact .ok ⟨.inr rfl, finite⟩
    · next infinite =>
      refine .error (report fun ⟨y, is, finite⟩ => infinite ?_)
      obtain ⟨n, other, -⟩ | same := is
      · cases other
      · rwa [Value.number.inj same]
  · next noInteger noNumber =>
    refine .error (report fun ⟨y, is, _⟩ => ?_)
    obtain ⟨n, rfl, -⟩ | rfl := is
    · exact noInteger n rfl
    · exact noNumber y rfl

theorem ends_path? (required : (key, .path) ∈ requirements)
    (found : Assoc.get? key table = some value) :
    Ends (IsPath root value) (Flawed table) (path? root key value) := by
  unfold path?
  split
  · next text => exact .ok ⟨text, rfl, rfl⟩
  · next noText =>
    exact .error (.inl ⟨key, .path, value, rfl, required, found, fun ⟨text, is⟩ => noText text is⟩)

theorem texts?_cons (key text : String) (rest : List Value) :
    texts? key (.array (.string text :: rest)) = (text :: ·) <$> texts? key (.array rest) := by
  simp only [texts?, List.mapM_cons, bind_pure_comp]
  rfl

theorem ends_items (key : String) (items : List Value) :
    Ends (IsTexts (.array items)) (fun error => error = .invalid key .listOfTexts ∧
      ¬ Fits .listOfTexts (.array items)) (texts? key (.array items)) := by
  induction items with
  | nil => exact .ok rfl
  | cons item rest ih =>
    cases item with
    | string text =>
      rw [texts?_cons]
      generalize texts? key (.array rest) = read at ih ⊢
      cases ih with
      | ok are => exact .ok (congrArg Value.array (congrArg _ (Value.array.inj are)))
      | error wrong =>
        refine .error ⟨wrong.1, fun ⟨texts, are⟩ => ?_⟩
        cases texts with
        | nil => cases are
        | cons first others =>
          exact wrong.2 ⟨others, congrArg Value.array (List.cons.inj (Value.array.inj are)).2⟩
    | _ => exact .error ⟨rfl, fun ⟨texts, are⟩ => by cases texts <;> cases are⟩

theorem ends_texts? (table : List (String × Value)) :
    Ends (IsTexts ((Assoc.get? "plugs" table).getD (.array []))) (Flawed table)
      (texts? "plugs" ((Assoc.get? "plugs" table).getD (.array []))) := by
  cases found : Assoc.get? "plugs" table with
  | none => exact .ok rfl
  | some value =>
    have report (unfit : ¬ Fits .listOfTexts value) :
        Flawed table (.invalid "plugs" .listOfTexts) :=
      .inl ⟨"plugs", .listOfTexts, value, rfl, by decide, found, unfit⟩
    cases value with
    | array items =>
      exact (ends_items "plugs" items).mono (fun _ are => are)
        fun error ⟨same, unfit⟩ => same ▸ report unfit
    | _ => exact .error (report fun ⟨texts, are⟩ => by cases are)

/-- A setting is read if the table has it. -/
theorem ends_read? {β : Type} {is : Value → β → Prop} {reader : Value → Except SettingsError β}
    (reads : ∀ value, Assoc.get? key table = some value →
      Ends (is value) (Flawed table) (reader value)) :
    Ends (Option.Rel is (Assoc.get? key table)) (Flawed table)
      (read? (.object table) key reader) := by
  simp only [read?, setting?]
  cases found : Assoc.get? key table with
  | none => exact .ok .none
  | some value => exact (reads value found).bind fun result h => .ok (.some h)

theorem ends_step? (table : List (String × Value)) :
    Ends (Option.Rel IsStep (Assoc.get? "step" table)) (Flawed table)
      (step? (.object table)) := by
  refine (ends_read? fun value => ends_number? (by decide)).bind fun step read => ?_
  cases found : Assoc.get? "step" table with
  | none =>
    rw [found] at read
    cases read
    exact .ok .none
  | some value =>
    rw [found] at read
    cases read with
    | @some _ x number =>
      have positive := Double.pos_iff_not_le_zero number.2
      dsimp only
      split
      · next low =>
        refine .error (.inl ⟨"step", .positiveNumber, value, rfl, by decide, found, ?_⟩)
        rintro ⟨y, other, above⟩
        rw [number.unique other] at low positive
        exact positive.mp above low
      · next high => exact .ok (.some ⟨number, positive.mpr high⟩)

theorem ends_ofTable (root : Path) (table : List (String × Value)) :
    Ends (Reads root table) (Flawed table) (ofTable root (.object table)) := by
  refine (ends_step? table).bind fun step isStep => ?_
  refine (ends_read? fun _ => ends_path? (by decide)).bind fun scene isScene => ?_
  refine (ends_read? fun _ => ends_path? (by decide)).bind fun output isOutput => ?_
  refine (ends_read? fun _ => ends_number? (by decide)).bind fun first isFirst => ?_
  refine (ends_read? fun _ => ends_number? (by decide)).bind fun last isLast => ?_
  refine (ends_texts? table).bind fun plugs arePlugs => ?_
  exact .ok ⟨isScene, isOutput, isFirst, isLast, isStep, arePlugs, rfl⟩

end Table

/-! ### What is no table -/

section NoTable

variable {value : Value} (noTable : ∀ table, value ≠ .object table)
include noTable

theorem ends_setting? (key : String) :
    Ends (· = .none) (·.isReport = false) (setting? value key) := by
  unfold setting?
  split
  · exact absurd rfl (noTable _)
  · split
    · exact .error rfl
    · exact .ok rfl
  · split
    · exact .error rfl
    · exact .ok rfl
  · exact .error rfl

theorem ends_read?_of_noTable {β : Type} (key : String)
    (reader : Value → Except SettingsError β) :
    Ends (· = .none) (·.isReport = false) (read? value key reader) :=
  (ends_setting? noTable key).bind fun found missing => by
    subst missing
    exact .ok rfl

/-- A section that is no table never gives settings: no member of it can be looked up. -/
theorem ends_ofTable_of_noTable (root : Path) :
    Ends (fun _ => False) (·.isReport = false) (ofTable root value) := by
  have unread {β : Type} (key : String) (reader : Value → Except SettingsError β) :=
    ends_read?_of_noTable noTable key reader
  have step : Ends (· = .none) (·.isReport = false) (step? value) :=
    (unread "step" _).bind fun found missing => by
      subst missing
      exact .ok rfl
  refine step.bind fun _ _ => (unread "scene" _).bind fun _ _ => (unread "output" _).bind fun _ _ =>
    (unread "start" _).bind fun _ _ => (unread "end" _).bind fun _ _ => ?_
  unfold member
  split
  · exact absurd rfl (noTable _)
  · exact .error rfl

end NoTable

/-! ### Documents -/

/-- What stands at `tool.dgeval` in a document. -/
def section? (document : List (String × Value)) : Option Value :=
  match Assoc.get? "tool" document with
  | some (.object tools) => Assoc.get? "dgeval" tools
  | _ => Option.none

/-- The table of the settings; an empty one if there is none. -/
def tableOf (document : List (String × Value)) : List (String × Value) :=
  match section? document with
  | some (.object table) => table
  | _ => []

/-- Where a document has something in the place of a table, it is a table. At `tool.dgeval` any
value that holds nothing counts as an empty table. -/
structure HasTables (document : List (String × Value)) : Prop where
  tools : ∀ value, Assoc.get? "tool" document = some value → ∃ tools, value = .object tools
  settings : ∀ value, section? document = some value →
    isEmpty value = true ∨ ∃ table, value = .object table

theorem reads_none (root : Path) : Reads root [] { none with root := some root } :=
  ⟨.none, .none, .none, .none, .none, rfl, rfl⟩

section Document

variable {document : List (String × Value)} (root : Path)

/-- The settings are looked for in the section as soon as `tool` is a table or missing. -/
theorem ofDocument_of_tools (tools : ∀ value, Assoc.get? "tool" document = some value →
      ∃ tools, value = .object tools) :
    ofDocument root (.object document) =
      let table := (section? document).getD (.object [])
      if isEmpty table then .ok { none with root := some root } else ofTable root table := by
  match found : Assoc.get? "tool" document with
  | .none =>
    simp only [ofDocument, member, section?, found]
    rfl
  | some value =>
    obtain ⟨members, rfl⟩ := tools value found
    simp only [ofDocument, member, section?, found]
    rfl

theorem ends_ofDocument (tables : HasTables document) :
    Ends (Reads root (tableOf document)) (Flawed (tableOf document))
      (ofDocument root (.object document)) := by
  rw [ofDocument_of_tools root tables.tools, tableOf]
  cases found : section? document with
  | none => exact .ok (reads_none root)
  | some value =>
    dsimp only [Option.getD_some]
    cases empty : isEmpty value with
    | true =>
      refine .ok ?_
      split
      · next table same =>
        obtain rfl := Option.some.inj same
        rw [List.isEmpty_iff.mp empty]
        exact reads_none root
      · exact reads_none root
    | false =>
      obtain ⟨table, rfl⟩ := (tables.settings value found).resolve_left (by simp [empty])
      exact ends_ofTable root table

theorem ends_ofDocument_of_noTables (noTables : ¬ HasTables document) :
    Ends (fun _ => False) (·.isReport = false) (ofDocument root (.object document)) := by
  by_cases tools : ∀ value, Assoc.get? "tool" document = some value → ∃ tools, value = .object tools
  · rw [ofDocument_of_tools root tools]
    obtain ⟨value, found, full, noTable⟩ : ∃ value, section? document = some value ∧
        isEmpty value = false ∧ ∀ table, value ≠ .object table := by
      by_contra only
      refine noTables ⟨tools, fun value found => ?_⟩
      by_contra neither
      simp only [not_or, not_exists, Bool.not_eq_true] at neither
      exact only ⟨value, found, neither⟩
    rw [found, Option.getD_some]
    simp only [full, Bool.false_eq_true, if_false]
    exact ends_ofTable_of_noTable noTable root
  · simp only [not_forall, not_exists] at tools
    obtain ⟨value, found, noTable⟩ := tools
    simp only [ofDocument, member, found, Option.getD_some]
    cases value with
    | object table => exact absurd rfl (noTable table)
    | _ => exact .error rfl

end Document

/-- A document gives the settings of its table, or an error. Where there are tables in the place of
tables and no integer is beyond the range of numbers, an error reports a setting of the table that
is not what it has to be. Where there are no tables it is never a report. -/
theorem ofDocument_reads (root : Path) (document : List (String × Value)) :
    let table := tableOf document
    let outcome := ofDocument root (.object document)
    (∀ settings, outcome = .ok settings → Reads root table settings) ∧
      (HasTables document → ¬ HoldsHuge table →
        (∃ settings, outcome = .ok settings ∧ Reads root table settings) ∨
          ∃ error, outcome = .error error ∧ error.isReport = true ∧ Reports table error) ∧
      (HasTables document → HoldsHuge table →
        ∃ error, outcome = .error error ∧ (error = .integerTooLarge ∨ Reports table error)) ∧
      (¬ HasTables document → ∃ error, outcome = .error error ∧ error.isReport = false) := by
  intro table outcome
  -- Without tables no settings come out at all, so the cases do not share a proof.
  by_cases tables : HasTables document
  · have ends : Ends (Reads root table) (Flawed table) outcome := ends_ofDocument root tables
    generalize outcome = result at ends
    cases ends with
    | @ok settings reads =>
      exact ⟨fun _ same => Except.ok.inj same ▸ reads, fun _ _ => .inl ⟨settings, rfl, reads⟩,
        fun _ huge => absurd huge reads.not_holdsHuge, fun noTables => absurd tables noTables⟩
    | @error error flawed =>
      refine ⟨nofun, fun _ small => .inr ?_, fun _ _ => ⟨error, rfl, ?_⟩,
        fun noTables => absurd tables noTables⟩
      · obtain ⟨key, expected, value, rfl, rest⟩ := flawed.resolve_right fun huge => small huge.2
        exact ⟨_, rfl, rfl, key, expected, value, rfl, rest⟩
      · exact flawed.symm.imp_left And.left
  · have ends := ends_ofDocument_of_noTables root tables
    change Ends _ _ outcome at ends
    generalize outcome = result at ends
    cases ends with
    | ok never => exact never.elim
    | @error error other =>
      exact ⟨nofun, fun given => absurd given tables, fun given => absurd given tables,
        fun _ => ⟨error, rfl, other⟩⟩

/-- A step of zero is reported. -/
theorem ofDocument_reads_step :
    let document := [("tool", Value.object [("dgeval", .object [("step", .integer 0)])])]
    ∃ error, ofDocument ⟨"/", ["p"]⟩ (.object document) = .error error ∧ error.isReport = true := by
  intro document
  have tables : HasTables document :=
    ⟨fun value found => ⟨_, (Option.some.inj found).symm⟩,
      fun value found => .inr ⟨_, (Option.some.inj found).symm⟩⟩
  have small : ¬ HoldsHuge (tableOf document) := by
    rintro ⟨key, n, -, found, huge⟩
    obtain ⟨-, same⟩ : "step" = key ∧ Value.integer 0 = .integer n := by
      simpa [tableOf, section?, document, Assoc.get?] using found
    obtain rfl := Value.integer.inj same
    exact absurd huge (by decide +kernel)
  obtain ⟨settings, -, reads⟩ | ⟨error, outcome, report, -⟩ :=
    (ofDocument_reads ⟨"/", ["p"]⟩ document).2.1 tables small
  · have step := reads.step
    generalize settings.step = read at step
    cases step with
    | some is =>
      have zero : IsNumber (.integer 0) (Double.ofInteger 0) :=
        ⟨.inl ⟨0, rfl, rfl⟩, by decide +kernel⟩
      exact absurd (zero.unique is.1 ▸ is.2) (by decide +kernel)
  · exact ⟨error, outcome, report⟩

/-- An integer with four hundred zeros is beyond the range of floats, and an integer is no table.
Both end in errors that report no setting. -/
theorem ofDocument_no_report :
    let root : Path := ⟨"/", ["p"]⟩
    let huge := Value.integer (Nat.pow 10 400)
    ofDocument root (.object [("tool", .object [("dgeval", .object [("end", huge)])])]) =
        .error .integerTooLarge ∧
      ofDocument root (.object [("tool", .integer 3)]) = .error (.noMembers .integer) ∧
      SettingsError.isReport .integerTooLarge = false ∧
      SettingsError.isReport (.noMembers .integer) = false := by
  intro root huge
  have only (value : Value) :
      ofDocument root (.object [("tool", .object [("dgeval", .object [("end", value)])])]) =
        ((some <$> number? "end" value) >>= fun last => .ok { none with last, root }) := rfl
  have unread {n : Int} (infinite : Scalar.isFinite (Double.ofInteger n) = false) :
      number? "end" (.integer n) = .error .integerTooLarge :=
    if_neg (Bool.eq_false_iff.mp infinite)
  refine ⟨?_, rfl, rfl, rfl⟩
  rw [only, unread (by decide +kernel)]
  rfl

end Settings

end PlugGraph
