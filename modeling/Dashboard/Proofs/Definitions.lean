import Mathlib
import Dashboard.Proofs.JsonTexts
import Dashboard.Proofs.Loads

/-!
# Definitions

The text of an object makes an activity when each member suits its field and
each capability that is named is registered in the table of its kind. The
activity can then do what those registered functions do in its context.
-/

namespace Dashboard

/-! ## Members and fields -/

def Json.present? (j : Json) : Option Json := if j.isNull then none else some j

theorem Json.present?_isSome_iff {j : Json} : j.present?.isSome = true ↔ j ≠ .null := by
  cases j <;> simp [Json.present?, Json.isNull]

theorem Json.string?_field_eq_some_iff {j : Json} {key name : String} :
    (j.field key).string? = some name ↔ j.get? key = some (.str name) := by
  unfold Json.field
  cases hg : j.get? key with
  | none => simp [Json.string?]
  | some value => cases value <;> simp [Json.string?]

namespace Definition

open Json

/-- Whether a member suits the field of its key; without such a field it never does. -/
def accepts (key : String) (value : Json) : Bool :=
  match key with
  | "display" | "data" => true
  | "execute" | "handleEvent" | "provideParameters" | "provideScanParameters" | "postScript" =>
    value.isNull || value.string?.isSome
  | "cache" => value.bool?.isSome
  | _ => false

def put (key : String) (value : Json) (d : Definition) : Definition :=
  match key with
  | "display" => { d with display := value.present? }
  | "execute" => { d with execute := value.string? }
  | "handleEvent" => { d with handleEvent := value.string? }
  | "provideParameters" => { d with provideParameters := value.string? }
  | "provideScanParameters" => { d with provideScanParameters := value.string? }
  | "postScript" => { d with postScript := value.string? }
  | "cache" => { d with cache := value.bool?.getD false }
  | "data" => { d with data := value }
  | _ => d

/-- The definition with these fields, which are null where they are absent. -/
def ofFields (field : String → Json) : Definition where
  display := (field "display").present?
  execute := (field "execute").string?
  handleEvent := (field "handleEvent").string?
  provideParameters := (field "provideParameters").string?
  provideScanParameters := (field "provideScanParameters").string?
  postScript := (field "postScript").string?
  cache := (field "cache").bool?.getD false
  data := field "data"

theorem record_takes : record.Takes accepts put := by
  intro key t j hj d
  have hdisplay :
      ((Field.defaulted "display" (.optional .json) fun display d => { d with display }).put t d).toOption =
        some { d with display := j.present? } := by
    rw [Field.put_toOption Reader.takes_json.optional hj]
    cases j <;> rfl
  have hcache : ((Field.defaulted "cache" .bool fun cache d => { d with cache }).put t d).toOption =
      if j.bool?.isSome then some { d with cache := j.bool?.getD false } else none := by
    rw [Field.put_toOption Reader.takes_bool hj]
    cases j <;> rfl
  have hname : ∀ {name : String} {set : Option String → Definition → Definition},
      ((Field.defaulted name (.optional .string) set).put t d).toOption =
        if j.isNull || j.string?.isSome then some (set j.string? d) else none := by
    intro name set
    rw [Field.put_toOption Reader.takes_string.optional hj]
    cases j <;> rfl
  unfold accepts put
  split
  · exact hdisplay
  · exact Field.put_toOption Reader.takes_json hj d
  · exact hname
  · exact hname
  · exact hname
  · exact hname
  · exact hname
  · exact hcache
  · rename_i hdisplay hdata hexecute hhandle hprovide hscan hscript hcache
    simp [Record.find?, record, Field.defaulted, Field.ofReader, Ne.symm hdisplay, Ne.symm hdata, Ne.symm hexecute,
      Ne.symm hhandle, Ne.symm hprovide, Ne.symm hscan, Ne.symm hscript, Ne.symm hcache]

theorem put_ofFields (key : String) (j : Json) (field : String → Json) :
    put key j (ofFields field) = ofFields (Function.update field key j) := by
  unfold put
  split
  case h_9 hdisplay hexecute hhandle hprovide hscan hscript hcache hdata =>
    simp [ofFields, Function.update_of_ne, Ne.symm hdisplay, Ne.symm hdata, Ne.symm hexecute,
      Ne.symm hhandle, Ne.symm hprovide, Ne.symm hscan, Ne.symm hscript, Ne.symm hcache]
  all_goals simp [ofFields]

theorem ofText_eq_ok_iff {source : String} {l : List (String × Json)} (hwritten : writtenMembers? source = some l)
    (hkeys : (l.map Prod.fst).Nodup) {d : Definition} : ofText source = .ok d ↔
      (∀ key j, (Json.ofMembers l).get? key = some j → accepts key j = true) ∧
        d = ofFields (Json.ofMembers l).field := by
  have hfree : ∀ f ∈ record.fields, f.needed = false := by
    simp [record, Field.defaulted, Field.ofReader]
  exact mapError_eq_ok_iff.trans
    (Record.ofText_eq_ok_iff record_takes rfl hfree put_ofFields rfl hwritten hkeys)

/-! ## Capabilities -/

theorem resolve_eq_ok_iff {α : Type} {field : String} {lookUp : String → Option α} {name? : Option String}
    {x : Option α} : resolve field lookUp name? = .ok x ↔
      x = name?.bind lookUp ∧ ∀ name, name? = some name → (lookUp name).isSome = true := by
  cases name? with
  | none =>
    constructor
    · intro h
      exact ⟨(Except.ok.inj h).symm, fun name hname => by cases hname⟩
    · rintro ⟨rfl, -⟩
      rfl
  | some name =>
    cases hl : lookUp name with
    | none => simp [resolve, hl]
    | some a =>
      have hresolved : resolve field lookUp (some name) = .ok (some a) := by simp only [resolve, hl]
      rw [hresolved, Option.bind_some, hl]
      constructor
      · intro h
        refine ⟨(Except.ok.inj h).symm, fun name' hname => ?_⟩
        rw [← Option.some.inj hname, hl]
        rfl
      · rintro ⟨rfl, -⟩
        rfl

theorem resolve_eq_some {α : Type} {field : String} {lookUp : String → Option α} {name? : Option String} {x : α}
    (h : resolve field lookUp name? = .ok (some x)) : ∃ name, name? = some name ∧ lookUp name = some x :=
  Option.bind_eq_some_iff.mp (resolve_eq_ok_iff.mp h).1.symm

theorem bind_eq_ok {α β ε : Type} {x : Except ε α} {f : α → Except ε β} {b : β} (h : (x >>= f) = .ok b) :
    ∃ a, x = .ok a ∧ f a = .ok b := by
  cases x with
  | error e => cases h
  | ok a => exact ⟨a, rfl, h⟩

theorem capabilities_eq_ok_iff {d : Definition} {r : Registry} {c : Capabilities} : d.capabilities r = .ok c ↔
    resolve "execute" r.action? d.execute = .ok c.execute ∧
      resolve "handleEvent" r.handler? d.handleEvent = .ok c.handleEvent ∧
      resolve "provideParameters" r.provider? d.provideParameters = .ok c.provideParameters ∧
      resolve "provideScanParameters" r.provider? d.provideScanParameters = .ok c.provideScanParameters ∧
      resolve "postScript" r.action? d.postScript = .ok c.postScript := by
  unfold capabilities
  constructor
  · intro h
    obtain ⟨execute, hexecute, h⟩ := bind_eq_ok h
    obtain ⟨handleEvent, hhandle, h⟩ := bind_eq_ok h
    obtain ⟨provideParameters, hprovide, h⟩ := bind_eq_ok h
    obtain ⟨provideScanParameters, hscan, h⟩ := bind_eq_ok h
    obtain ⟨postScript, hscript, h⟩ := bind_eq_ok h
    cases h
    exact ⟨hexecute, hhandle, hprovide, hscan, hscript⟩
  · rintro ⟨hexecute, hhandle, hprovide, hscan, hscript⟩
    rw [hexecute, hhandle, hprovide, hscan, hscript]
    rfl

/-- What is resolved from a table has the name that was given and does what is registered there. -/
theorem resolve_named {φ : Type} (table : Dict φ) {field : String} {name? : Option String} {x : Option (Named φ)}
    (h : resolve field (fun name => (table.get? name).map (Named.mk name)) name? = .ok x) :
    x.map Named.name = name? ∧ x.map Named.run = name?.bind table.get? := by
  obtain ⟨rfl, hregistered⟩ := resolve_eq_ok_iff.mp h
  cases name? with
  | none => exact ⟨rfl, rfl⟩
  | some name =>
    obtain ⟨f, hf⟩ := Option.isSome_iff_exists.mp (hregistered name rfl)
    obtain ⟨run, hrun, rfl⟩ := Option.map_eq_some_iff.mp hf
    simp [hrun]

theorem exists_resolved_iff {φ : Type} {table : Dict φ} {field : String} {name? : Option String} :
    (∃ x, resolve field (fun name => (table.get? name).map (Named.mk name)) name? = .ok x) ↔
      ∀ name, name? = some name → (table.get? name).isSome = true := by
  simp only [resolve_eq_ok_iff, exists_eq_left, Option.isSome_map]

theorem exists_capabilities_iff {d : Definition} {r : Registry} : (∃ c, d.capabilities r = .ok c) ↔
    (∀ name, d.execute = some name → (r.actions.get? name).isSome = true) ∧
      (∀ name, d.handleEvent = some name → (r.handlers.get? name).isSome = true) ∧
      (∀ name, d.provideParameters = some name → (r.providers.get? name).isSome = true) ∧
      (∀ name, d.provideScanParameters = some name → (r.providers.get? name).isSome = true) ∧
      ∀ name, d.postScript = some name → (r.actions.get? name).isSome = true := by
  constructor
  · rintro ⟨c, h⟩
    obtain ⟨hexecute, hhandle, hprovide, hscan, hscript⟩ := capabilities_eq_ok_iff.mp h
    exact ⟨exists_resolved_iff.mp ⟨_, hexecute⟩, exists_resolved_iff.mp ⟨_, hhandle⟩,
      exists_resolved_iff.mp ⟨_, hprovide⟩, exists_resolved_iff.mp ⟨_, hscan⟩,
      exists_resolved_iff.mp ⟨_, hscript⟩⟩
  · rintro ⟨hexecute, hhandle, hprovide, hscan, hscript⟩
    obtain ⟨execute, hexecute⟩ := exists_resolved_iff.mpr hexecute
    obtain ⟨handleEvent, hhandle⟩ := exists_resolved_iff.mpr hhandle
    obtain ⟨provideParameters, hprovide⟩ := exists_resolved_iff.mpr hprovide
    obtain ⟨provideScanParameters, hscan⟩ := exists_resolved_iff.mpr hscan
    obtain ⟨postScript, hscript⟩ := exists_resolved_iff.mpr hscript
    exact ⟨⟨execute, handleEvent, provideParameters, provideScanParameters, postScript⟩,
      capabilities_eq_ok_iff.mpr ⟨hexecute, hhandle, hprovide, hscan, hscript⟩⟩

theorem registered_iff {j : Json} {r : Registry} : (∃ c, (ofFields j.field).capabilities r = .ok c) ↔
    (∀ key ∈ ["execute", "postScript"], ∀ name, j.get? key = some (.str name) →
      (r.actions.get? name).isSome = true) ∧
    (∀ name, j.get? "handleEvent" = some (.str name) → (r.handlers.get? name).isSome = true) ∧
    ∀ key ∈ ["provideParameters", "provideScanParameters"], ∀ name, j.get? key = some (.str name) →
      (r.providers.get? name).isSome = true := by
  rw [exists_capabilities_iff]
  simp only [ofFields, string?_field_eq_some_iff, List.forall_mem_cons, List.not_mem_nil, false_implies, implies_true,
    and_true]
  constructor
  · rintro ⟨hexecute, hhandle, hprovide, hscan, hscript⟩
    exact ⟨⟨hexecute, hscript⟩, hhandle, hprovide, hscan⟩
  · rintro ⟨⟨hexecute, hscript⟩, hhandle, hprovide, hscan⟩
    exact ⟨hexecute, hhandle, hprovide, hscan, hscript⟩

/-! ## Members that suit their fields -/

theorem accepts_iff {key : String} {value : Json} : accepts key value = true ↔
    key ∈ ["display", "execute", "handleEvent", "provideParameters", "provideScanParameters", "postScript", "cache",
      "data"] ∧
    (key ∈ ["execute", "handleEvent", "provideParameters", "provideScanParameters", "postScript"] →
      value = .null ∨ ∃ name, value = .str name) ∧
    (key = "cache" → ∃ b, value = .bool b) := by
  have hname : (value.isNull || value.string?.isSome) = true ↔ value = .null ∨ ∃ name, value = .str name := by
    cases value <;> simp [isNull, string?]
  have hcache : value.bool?.isSome = true ↔ ∃ b, value = .bool b := by
    cases value <;> simp [bool?]
  unfold accepts
  split
  case h_9 =>
    refine iff_of_false Bool.false_ne_true ?_
    rintro ⟨hkey, -⟩
    simp only [List.mem_cons, List.not_mem_nil, or_false] at hkey
    grind
  all_goals simp [hname, hcache]

theorem accepts_all_iff {j : Json} : (∀ key value, j.get? key = some value → accepts key value = true) ↔
    (∀ key value, j.get? key = some value → key ∈ ["display", "execute", "handleEvent", "provideParameters",
      "provideScanParameters", "postScript", "cache", "data"]) ∧
    (∀ key ∈ ["execute", "handleEvent", "provideParameters", "provideScanParameters", "postScript"],
      ∀ value, j.get? key = some value → value = .null ∨ ∃ name, value = .str name) ∧
    ∀ value, j.get? "cache" = some value → ∃ b, value = .bool b := by
  simp only [accepts_iff]
  constructor
  · intro h
    exact ⟨fun key value hvalue => (h key value hvalue).1, fun key hkey value hvalue => (h key value hvalue).2.1 hkey,
      fun value hvalue => (h "cache" value hvalue).2.2 rfl⟩
  · rintro ⟨hknown, hname, hcache⟩ key value hvalue
    refine ⟨hknown key value hvalue, fun hkey => hname key hkey value hvalue, ?_⟩
    rintro rfl
    exact hcache value hvalue

end Definition

/-! ## Activities -/

theorem Capabilities.mem_declared_iff {c : Capabilities} {capability : Capability} :
    capability ∈ c.declared ↔ ∃ name, c.name? capability = some name := by
  rw [declared, List.mem_filter, Option.isSome_iff_exists]
  cases capability <;> simp

section
variable (a : Activity)

theorem Activity.execute_eq :
    a.execute = ((a.capabilities.execute.map Named.run).map fun action => action a.context).getD [] := by
  unfold Activity.execute
  cases a.capabilities.execute <;> rfl

theorem Activity.postScript_eq :
    a.postScript = ((a.capabilities.postScript.map Named.run).map fun action => action a.context).getD [] := by
  unfold Activity.postScript
  cases a.capabilities.postScript <;> rfl

theorem Activity.handle?_eq (e : Event) :
    a.handle? e = (a.capabilities.handleEvent.map Named.run).map fun handler => handler a.context e := by
  rw [Option.map_map]
  rfl

theorem Activity.parameters?_eq :
    a.parameters? = (a.capabilities.provideParameters.map Named.run).bind fun provider => provider a.context := by
  rw [Option.bind_map]
  rfl

theorem Activity.scanParameters?_eq :
    a.scanParameters? =
      (a.capabilities.provideScanParameters.map Named.run).bind fun provider => provider a.context := by
  rw [Option.bind_map]
  rfl

end

section
variable {source : String} {l : List (String × Json)}

theorem activity_eq_ok_iff_of_written (hwritten : Json.writtenMembers? source = some l)
    (hkeys : (l.map Prod.fst).Nodup) {r : Registry} {panel url : String} {a : Activity} :
    r.activity panel url source = .ok a ↔
      let d := Definition.ofFields (Json.ofMembers l).field
      (∀ key j, (Json.ofMembers l).get? key = some j → Definition.accepts key j = true) ∧
        d.capabilities r = .ok a.capabilities ∧
        a = ⟨⟨panel, url, d.data⟩, d.display, a.capabilities, d.cache⟩ := by
  rw [activity_eq_ok_iff]
  constructor
  · rintro ⟨d, c, hd, hc, rfl⟩
    obtain ⟨haccepts, rfl⟩ := (Definition.ofText_eq_ok_iff hwritten hkeys).mp hd
    exact ⟨haccepts, hc, rfl⟩
  · rintro ⟨haccepts, hc, ha⟩
    exact ⟨_, _, (Definition.ofText_eq_ok_iff hwritten hkeys).mpr ⟨haccepts, rfl⟩, hc, ha⟩

/-- The text of an object without repeated keys makes an activity exactly when all its members suit their fields and
all that it names is registered. -/
theorem object_makes_activity_iff (hwritten : Json.writtenMembers? source = some l) (hkeys : (l.map Prod.fst).Nodup)
    (r : Registry) (panel url : String) :
    let j := Json.ofMembers l
    let named := fun key => (j.field key).string?
    let context : Context := ⟨panel, url, j.field "data"⟩
    Json.ofText? source = some j ∧
    ((∃ a, r.activity panel url source = .ok a) ↔
      (∀ key value, j.get? key = some value → key ∈ ["display", "execute", "handleEvent", "provideParameters",
        "provideScanParameters", "postScript", "cache", "data"]) ∧
      (∀ key ∈ ["execute", "handleEvent", "provideParameters", "provideScanParameters", "postScript"],
        ∀ value, j.get? key = some value → value = .null ∨ ∃ name, value = .str name) ∧
      (∀ value, j.get? "cache" = some value → ∃ b, value = .bool b) ∧
      (∀ key ∈ ["execute", "postScript"], ∀ name, j.get? key = some (.str name) →
        (r.actions.get? name).isSome = true) ∧
      (∀ name, j.get? "handleEvent" = some (.str name) → (r.handlers.get? name).isSome = true) ∧
      ∀ key ∈ ["provideParameters", "provideScanParameters"], ∀ name, j.get? key = some (.str name) →
        (r.providers.get? name).isSome = true) ∧
    ∀ a, r.activity panel url source = .ok a →
      a.context = context ∧ (a.isGui = true ↔ j.field "display" ≠ .null) ∧
      (∀ capability, capability ∈ a.capabilities.declared ↔
        ∃ name, j.get? capability.name = some (.str name)) ∧
      a.execute = (((named "execute").bind r.actions.get?).map fun action => action context).getD [] ∧
      a.postScript = (((named "postScript").bind r.actions.get?).map fun action => action context).getD [] ∧
      (∀ e, a.handle? e = ((named "handleEvent").bind r.handlers.get?).map fun handler => handler context e) ∧
      a.parameters? = ((named "provideParameters").bind r.providers.get?).bind (fun provider => provider context) ∧
      a.scanParameters? =
        ((named "provideScanParameters").bind r.providers.get?).bind fun provider => provider context := by
  intro j named context
  have hmade : ∀ a, r.activity panel url source = .ok a ↔ _ := fun a => activity_eq_ok_iff_of_written hwritten hkeys
  refine ⟨(Json.ofText?_object_iff.mpr ⟨l, hwritten, rfl⟩).1, ?_, ?_⟩
  · rw [← Definition.registered_iff]
    constructor
    · rintro ⟨a, ha⟩
      obtain ⟨haccepts, hc, -⟩ := (hmade a).mp ha
      obtain ⟨hknown, hname, hcache⟩ := Definition.accepts_all_iff.mp haccepts
      exact ⟨hknown, hname, hcache, _, hc⟩
    · rintro ⟨hknown, hname, hcache, c, hc⟩
      exact ⟨⟨context, _, c, _⟩,
        (hmade _).mpr ⟨Definition.accepts_all_iff.mpr ⟨hknown, hname, hcache⟩, hc, rfl⟩⟩
  · intro a ha
    obtain ⟨-, hc, he⟩ := (hmade a).mp ha
    obtain ⟨hexecute, hhandle, hprovide, hscan, hscript⟩ := Definition.capabilities_eq_ok_iff.mp hc
    obtain ⟨nexecute, rexecute⟩ := Definition.resolve_named r.actions hexecute
    obtain ⟨nhandle, rhandle⟩ := Definition.resolve_named r.handlers hhandle
    obtain ⟨nprovide, rprovide⟩ := Definition.resolve_named r.providers hprovide
    obtain ⟨nscan, rscan⟩ := Definition.resolve_named r.providers hscan
    obtain ⟨nscript, rscript⟩ := Definition.resolve_named r.actions hscript
    have hcontext : a.context = context := by rw [he]; rfl
    have hdisplay : a.display = (j.field "display").present? := by rw [he]; rfl
    have hname : ∀ capability, a.capabilities.name? capability = named capability.name := by
      intro capability
      cases capability with
      | execute => exact nexecute
      | handleEvent => exact nhandle
      | provideParameters => exact nprovide
      | provideScanParameters => exact nscan
      | postScript => exact nscript
    refine ⟨hcontext, ?_, ?_, ?_, ?_, ?_, ?_, ?_⟩
    · rw [Activity.isGui, hdisplay, Json.present?_isSome_iff]
    · intro capability
      simp only [Capabilities.mem_declared_iff, hname]
      exact exists_congr fun name => Json.string?_field_eq_some_iff
    · rw [a.execute_eq, rexecute, hcontext]
      rfl
    · rw [a.postScript_eq, rscript, hcontext]
      rfl
    · intro e
      rw [a.handle?_eq, rhandle, hcontext]
      rfl
    · rw [a.parameters?_eq, rprovide, hcontext]
      rfl
    · rw [a.scanParameters?_eq, rscan, hcontext]
      rfl

/-- An action can be executed, and cannot handle events. -/
theorem action_is_no_handler :
    let executing := "\x7b\"execute\":\"dashboard.finished\"\x7d"
    let handling := "\x7b\"handleEvent\":\"dashboard.finished\"\x7d"
    (∃ a, Registry.builtin.activity "A" "/x" executing = .ok a ∧ a.execute = [.finish (.ofPanel "A")]) ∧
      ¬ ∃ a, Registry.builtin.activity "A" "/x" handling = .ok a := by
  intro executing handling
  have hexecuting : Json.writtenMembers? executing = some [("execute", .str "dashboard.finished")] := by
    simp only [executing]
    cbv
  have hhandling : Json.writtenMembers? handling = some [("handleEvent", .str "dashboard.finished")] := by
    simp only [handling]
    cbv
  have hget : ∀ (name : String) (value : Json) (key : String),
      (Json.ofMembers [(name, value)]).get? key = if key = name then some value else none := fun _ _ _ => rfl
  constructor
  · obtain ⟨-, hmakes, hdoes⟩ := object_makes_activity_iff hexecuting (by decide) .builtin "A" "/x"
    have hregistered : (Registry.builtin.actions.get? "dashboard.finished").isSome = true := by decide +kernel
    obtain ⟨a, ha⟩ := hmakes.mpr (by simp [hget, hregistered])
    exact ⟨a, ha, (hdoes a ha).2.2.2.1⟩
  · obtain ⟨-, hmakes, -⟩ := object_makes_activity_iff hhandling (by decide) .builtin "A" "/x"
    intro hmade
    obtain ⟨-, -, -, -, hregistered, -⟩ := hmakes.mp hmade
    exact absurd (hregistered "dashboard.finished" rfl) (by decide +kernel)

end

end Dashboard
