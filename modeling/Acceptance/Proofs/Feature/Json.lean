import Acceptance.Proofs.Json.Abridged

/-!
# Features without their defaults

A feature is read back from its JSON form, and also from the abridged forms of it, where any members that hold
their defaults are missing from the objects of the feature, of its backgrounds, scenarios and steps and of their
examples.
-/

namespace Acceptance

open Json (AbridgesItems AbridgesObject AbridgesUnlessNull Field Remain)

/-! ## Fields -/

/-- The fields of a step. -/
def Step.fields : List Field := Json.fieldsOf ({} : Step).toJson [(· = ·), (· = ·), (· = ·), (· = ·)]

/-- The fields of a background. -/
def Background.fields : List Field :=
  Json.fieldsOf ({} : Background).toJson [(· = ·), AbridgesItems (AbridgesObject Step.fields)]

/-- The fields of a block of examples. -/
def Examples.fields : List Field := Json.fieldsOf ({} : Examples).toJson [(· = ·), (· = ·), (· = ·), (· = ·)]

/-- The fields of a scenario. -/
def Scenario.fields : List Field :=
  Json.fieldsOf ({} : Scenario).toJson
    [(· = ·), (· = ·), AbridgesItems (AbridgesObject Step.fields),
      AbridgesUnlessNull (AbridgesObject Background.fields), AbridgesItems (AbridgesObject Examples.fields)]

/-- The fields of a feature. -/
def Feature.fields : List Field :=
  Json.fieldsOf ({} : Feature).toJson
    [(· = ·), (· = ·), AbridgesUnlessNull (AbridgesObject Background.fields),
      AbridgesItems (AbridgesObject Scenario.fields), (· = ·)]

variable {value : Json}

/-! ## Forms that lack nothing -/

theorem Step.abridges_toJson (step : Step) : AbridgesObject Step.fields step.toJson step.toJson :=
  .refl (.cons ⟨rfl, rfl⟩ (.cons ⟨rfl, rfl⟩ (.cons ⟨rfl, rfl⟩ (.cons ⟨rfl, rfl⟩ .nil))))

theorem Background.abridges_toJson (background : Background) :
    AbridgesObject Background.fields background.toJson background.toJson :=
  .refl (.cons ⟨rfl, rfl⟩ (.cons ⟨rfl, .refl Step.abridges_toJson background.steps⟩ .nil))

theorem Examples.abridges_toJson (examples : Examples) :
    AbridgesObject Examples.fields examples.toJson examples.toJson :=
  .refl (.cons ⟨rfl, rfl⟩ (.cons ⟨rfl, rfl⟩ (.cons ⟨rfl, rfl⟩ (.cons ⟨rfl, rfl⟩ .nil))))

theorem Scenario.abridges_toJson (scenario : Scenario) :
    AbridgesObject Scenario.fields scenario.toJson scenario.toJson :=
  .refl (.cons ⟨rfl, rfl⟩ (.cons ⟨rfl, rfl⟩ (.cons ⟨rfl, .refl Step.abridges_toJson scenario.steps⟩
    (.cons ⟨rfl, .refl nofun Background.abridges_toJson scenario.background⟩
      (.cons ⟨rfl, .refl Examples.abridges_toJson scenario.examples⟩ .nil)))))

theorem Feature.abridges_toJson (feature : Feature) :
    AbridgesObject Feature.fields feature.toJson feature.toJson :=
  .refl (.cons ⟨rfl, rfl⟩ (.cons ⟨rfl, rfl⟩
    (.cons ⟨rfl, .refl nofun Background.abridges_toJson feature.background⟩
      (.cons ⟨rfl, .refl Scenario.abridges_toJson feature.scenarios⟩ (.cons ⟨rfl, rfl⟩ .nil)))))

/-! ## Reading abridged forms -/

theorem Step.ofJson?_abridged {step : Step} (h : AbridgesObject Step.fields step.toJson value) :
    ofJson? value = some step := by
  obtain ⟨values, hvalues, hgives⟩ := h.fieldValues? memberNames rfl (by decide)
  match values, hgives with
  | [keyword, text, table, docString], .cons hkeyword (.cons htext (.cons htable (.cons hdocString .nil))) =>
    have htable := htable.option nofun fun _ heq => heq ▸
      Json.nullable?_ofOption (fun rows => (Json.rows? rows).map Table.mk) rfl
        (fun table => congrArg (Option.map Table.mk) (Json.rows?_ofRows table.raw)) step.table
    simp [ofJson?, hvalues, hkeyword.text, htext.text, htable, hdocString.optionalText]

theorem Background.ofJson?_abridged {background : Background}
    (h : AbridgesObject Background.fields background.toJson value) : ofJson? value = some background := by
  obtain ⟨values, hvalues, hgives⟩ := h.fieldValues? memberNames rfl (by decide)
  match values, hgives with
  | [name, steps], .cons hname (.cons hsteps .nil) =>
    have hsteps := hsteps.items fun _ h => h.list? fun _ _ => Step.ofJson?_abridged
    simp [ofJson?, hvalues, hname.text, hsteps]

theorem Examples.ofJson?_abridged {examples : Examples}
    (h : AbridgesObject Examples.fields examples.toJson value) : ofJson? value = some examples := by
  obtain ⟨values, hvalues, hgives⟩ := h.fieldValues? memberNames rfl (by decide)
  match values, hgives with
  | [headers, rows, tags, external], .cons hheaders (.cons hrows (.cons htags (.cons hexternal .nil))) =>
    simp [ofJson?, hvalues, hheaders.texts, hrows.rows, htags.texts, hexternal.optionalText]

theorem Scenario.ofJson?_abridged {scenario : Scenario}
    (h : AbridgesObject Scenario.fields scenario.toJson value) : ofJson? value = some scenario := by
  obtain ⟨values, hvalues, hgives⟩ := h.fieldValues? memberNames rfl (by decide)
  match values, hgives with
  | [name, tags, steps, background, examples],
    .cons hname (.cons htags (.cons hsteps (.cons hbackground (.cons hexamples .nil)))) =>
    have hsteps := hsteps.items fun _ h => h.list? fun _ _ => Step.ofJson?_abridged
    have hbackground := hbackground.option nofun fun _ h =>
      h.nullable? nofun rfl fun _ _ => Background.ofJson?_abridged
    have hexamples := hexamples.items fun _ h => h.list? fun _ _ => Examples.ofJson?_abridged
    simp [ofJson?, hvalues, hname.text, htags.texts, hsteps, hbackground, hexamples]

theorem Feature.ofJson?_abridged {feature : Feature}
    (h : AbridgesObject Feature.fields feature.toJson value) : ofJson? value = some feature := by
  obtain ⟨values, hvalues, hgives⟩ := h.fieldValues? memberNames rfl (by decide)
  match values, hgives with
  | [name, tags, background, scenarios, path],
    .cons hname (.cons htags (.cons hbackground (.cons hscenarios (.cons hpath .nil)))) =>
    have hbackground := hbackground.option nofun fun _ h =>
      h.nullable? nofun rfl fun _ _ => Background.ofJson?_abridged
    have hscenarios := hscenarios.items fun _ h => h.list? fun _ _ => Scenario.ofJson?_abridged
    simp [ofJson?, hvalues, hname.text, htags.texts, hbackground, hscenarios, hpath.optionalText]

/-- A feature is read back from its JSON form, and just so from every form of it that lacks any members with
default values, wherever they were removed. -/
theorem Feature.ofJson?_lacking_defaults (feature : Feature) :
    ofJson? feature.toJson = some feature ∧
      ∀ value, AbridgesObject Feature.fields feature.toJson value → ofJson? value = some feature :=
  ⟨Feature.ofJson?_abridged feature.abridges_toJson, fun _ => Feature.ofJson?_abridged⟩

/-- A feature with a template, a table of examples and no more. -/
def search : Feature where
  name := "Search"
  background := some { steps := [{ keyword := "Given", text := "an index" }] }
  scenarios :=
    [{ name := "by <term>", steps := [{ keyword := "When", text := "I search <term>", table := some ⟨[]⟩ }]
       examples := [{ headers := ["term"], rows := [["rust"]] }] }]

/-- The JSON form of the feature without its default members, in another order. -/
def searchJson : Json :=
  .object
    [("scenarios", .array [.object
        [("steps", .array [.object
            [("keyword", .string "When"), ("text", .string "I search <term>"), ("table", .array [])]]),
          ("name", .string "by <term>"),
          ("examples", .array [.object
            [("headers", .ofStrings ["term"]), ("rows", .ofRows [["rust"]])]])]]),
      ("background", .object
        [("steps", .array [.object [("keyword", .string "Given"), ("text", .string "an index")]])]),
      ("name", .string "Search")]

theorem abridges_searchJson : AbridgesObject Feature.fields search.toJson searchJson := by
  refine .intro (.kept rfl (.removed (.kept ?background (.kept ?scenarios (.removed .nil)))))
    (List.reverse_perm [_, _, _])
  case background =>
    refine .intro (.removed (.kept (.intro (.cons ?_ .nil)) .nil)) (.refl _)
    exact .intro (.kept rfl (.kept rfl (.removed (.removed .nil)))) (.refl _)
  case scenarios =>
    refine .intro (.cons ?_ .nil)
    refine .intro (.kept rfl (.removed (.kept ?steps (.removed (.kept ?examples .nil))))) (.swap _ _ _)
    case steps =>
      refine .intro (.cons ?_ .nil)
      exact .intro (.kept rfl (.kept rfl (.kept rfl (.removed .nil)))) (.refl _)
    case examples =>
      refine .intro (.cons ?_ .nil)
      exact .intro (.kept rfl (.kept rfl (.removed (.removed .nil)))) (.refl _)

theorem Feature.ofJson?_lacking_defaults_search :
    AbridgesObject Feature.fields search.toJson searchJson ∧ Feature.ofJson? searchJson = some search :=
  ⟨abridges_searchJson, (Feature.ofJson?_lacking_defaults search).2 searchJson abridges_searchJson⟩

end Acceptance
