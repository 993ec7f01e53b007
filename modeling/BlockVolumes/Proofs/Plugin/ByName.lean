import BlockVolumes.Proofs.Plugin.Service
import BlockVolumes.Proofs.Plugin.Working

/-! Requests that name a volume: the name stands for one volume or for none, and that volume is the
one that is worked on. -/

namespace BlockVolumes.Plugin

open Operation
open Bench (Worked Means)

inductive Verb
  | create
  | remove
  | mount
  | unmount
  | path
  | get

namespace Verb

def work (s : Server) : Verb → List UInt8 → Routine Http.Reply
  | create => s.create
  | remove => s.remove
  | mount => s.mount
  | unmount => s.unmount
  | path => s.path
  | get => s.get

def name? (verb : Verb) (body : List UInt8) : Option String :=
  match verb with
  | create => (VolumeRequest.shape.decode body).toOption.bind fun request =>
    (GivenName.read .standard request.name).toOption.map (·.name)
  | mount | unmount => (MountRequest.shape.decode body).toOption.map fun request =>
    Server.nameOf request.name
  | remove | path | get => (VolumeRequest.shape.decode body).toOption.map fun request =>
    Server.nameOf request.name

/-- The volumes that are there already and may be worked on. -/
def Concerns (s : Server) (b : Bench) (name : String) : Verb → Volume → Prop
  | create => fun _ => False
  | mount => Mountable b name
  | unmount => Unmountable b name (s.placeOf name)
  | remove | path | get => b.Means name

end Verb

variable {s : Server} {d : BlockDriver} {b c : Bench} {name : String} {body : List UInt8}

theorem resolve_of_get (serves : s.registry.get s.driver = .ok d.toVolumeDriver) :
    s.registry.resolve s.driver = .ok d.toVolumeDriver :=
  DriverRegistry.resolve_of_get serves

theorem toOption_eq_some {ε α : Type} {result : Except ε α} {value : α} :
    result.toOption = some value ↔ result = .ok value := by
  cases result <;> simp [Except.toOption]

theorem leads_look (serves : s.registry.get s.driver = .ok d.toVolumeDriver)
    (asked : Verb.get.name? body = some name) (answer : String → Volume → Http.Reply) :
    (s.look body answer).Leads b fun _ reply c => c = b ∧
      reply = match b.named name with
        | some v => answer name v
        | none => notLocated (.notFound name) := by
  obtain ⟨request, read, rfl⟩ := Option.map_eq_some_iff.1 asked
  simp only [Server.look, ofBody_of_decode (toOption_eq_some.1 read), resolve_of_get serves,
    Server.orReply]
  refine Routine.leads_bind.2 (leads_volumeNamed (fun v named => ?_) fun none => ?_)
  · exact ⟨rfl, by rw [named]⟩
  · exact ⟨rfl, by rw [none]⟩

inductive Handled (s : Server) (d : BlockDriver) (b : Bench) (name : String) :
    Verb → List Mishap → Http.Reply → Bench → Prop
  | create {given : GivenName} {options : Option Labels} {mishaps : List Mishap}
      {result : Except VolumeError Unit} {c : Bench} (goes : given.name = name)
      (made : Made d given options b mishaps result c) :
    Handled s d b name .create mishaps (failureOf result) c
  | remove {mishaps : List Mishap} {result : Except VolumeError Unit} {c : Bench}
      (removed : Removed d name b mishaps result c) :
    Handled s d b name .remove mishaps (failureOf result) c
  | mount {mishaps : List Mishap} {reply : Http.Reply} {result : Except VolumeError Unit}
      {c : Bench} (mounting : Mounting d name (s.placeOf name) b mishaps result c) :
    Handled s d b name .mount mishaps reply c
  | unmount {v : Volume} {mishaps : List Mishap} {result : Except VolumeError Unit} {c : Bench}
      (named : b.named name = some v)
      (unmounting : Unmounting v (s.placeOf name) b mishaps result c) :
    Handled s d b name .unmount mishaps (failureOf result) c
  | unknown (none : b.named name = none) :
    Handled s d b name .unmount [] (notLocated (.notFound name)) b
  | path {mishaps : List Mishap} {reply : Http.Reply} : Handled s d b name .path mishaps reply b
  | get {mishaps : List Mishap} {reply : Http.Reply} : Handled s d b name .get mishaps reply b

theorem leads_reply {reply : Http.Reply} {post : List Mishap → Http.Reply → Bench → Prop} :
    (return reply : Routine Http.Reply).Leads b post ↔ post [] reply b := Iff.rfl

theorem leads_handled (serves : s.registry.get s.driver = .ok d.toVolumeDriver) (sound : b.Sound)
    {verb : Verb} (asked : verb.name? body = some name) :
    (verb.work s body).Leads b (Handled s d b name verb) := by
  cases verb with
  | create =>
    obtain ⟨request, read, known⟩ := Option.bind_eq_some_iff.1 asked
    obtain ⟨given, parsed, goes⟩ := Option.map_eq_some_iff.1 known
    simp only [Verb.work, Server.create, ofBody_of_decode (toOption_eq_some.1 read),
      toOption_eq_some.1 parsed, resolve_of_get serves, Server.orReply]
    apply Routine.leads_bind.2
    apply leads_underName
    apply (leads_createNamed sound given request.options).mono
    intro mishaps result c made
    simpa [leads_reply] using Handled.create goes made
  | remove =>
    obtain ⟨request, read, rfl⟩ := Option.map_eq_some_iff.1 asked
    simp only [Verb.work, Server.remove, ofBody_of_decode (toOption_eq_some.1 read),
      resolve_of_get serves, Server.orReply]
    apply Routine.leads_bind.2
    apply leads_underName
    apply (leads_removeNamed d b _).mono
    intro mishaps result c removed
    simpa [leads_reply] using Handled.remove removed
  | mount =>
    obtain ⟨request, read, rfl⟩ := Option.map_eq_some_iff.1 asked
    simp only [Verb.work, Server.mount, ofBody_of_decode (toOption_eq_some.1 read),
      resolve_of_get serves, Server.orReply]
    apply Routine.leads_bind.2
    apply leads_underName
    apply (leads_mount sound _ _).mono
    intro mishaps result c mounting
    cases result <;> simpa [leads_reply] using Handled.mount mounting
  | unmount =>
    obtain ⟨request, read, rfl⟩ := Option.map_eq_some_iff.1 asked
    simp only [Verb.work, Server.unmount, ofBody_of_decode (toOption_eq_some.1 read),
      resolve_of_get serves, Server.orReply]
    apply leads_underName
    refine Routine.leads_bind.2 (leads_volumeNamed (fun v named => ?_) fun none => ?_)
    · apply Routine.leads_bind.2
      apply (leads_unmount sound v _).mono
      intro mishaps result c unmounting
      simpa [leads_reply] using Handled.unmount named unmounting
    · exact .unknown none
  | path =>
    simp only [Verb.work, Server.path]
    apply (leads_look serves asked _).mono
    rintro mishaps reply c ⟨rfl, -⟩
    exact .path
  | get =>
    simp only [Verb.work, Server.get]
    apply (leads_look serves asked _).mono
    rintro mishaps reply c ⟨rfl, -⟩
    exact .get

theorem Handled.worked {verb : Verb} {mishaps : List Mishap} {reply : Http.Reply} (sound : b.Sound)
    (handled : Handled s d b name verb mishaps reply c) :
    b.Worked d (verb.Concerns s b name) c := by
  cases handled with
  | create _ made => exact made.worked
  | remove removed => exact removed.worked sound
  | mount mounting => exact mounting.worked sound
  | unmount named unmounting => exact unmounting.worked sound (Bench.named_iff.1 named)
  | unknown | path | get => exact .idle d b _

theorem leads_work (serves : s.registry.get s.driver = .ok d.toVolumeDriver) (sound : b.Sound)
    {verb : Verb} (asked : verb.name? body = some name) :
    (verb.work s body).Leads b fun _ _ c => b.Worked d (verb.Concerns s b name) c :=
  (leads_handled serves sound asked).mono fun _ _ _ handled => handled.worked sound

theorem leads_refused {α : Type} {shape : Shape α} {next : α → Routine Http.Reply}
    (unread : (shape.decode body).toOption = none) :
    (Server.orReply (shape.ofBody body) next).Leads b fun _ _ c => c = b := by
  cases read : shape.decode body with
  | ok value => simp [read, Except.toOption] at unread
  | error error =>
    simp only [Shape.ofBody, read, mapError_error, Server.orReply]
    exact rfl

theorem leads_unread (serves : s.registry.get s.driver = .ok d.toVolumeDriver) {verb : Verb}
    (unread : verb.name? body = none) : (verb.work s body).Leads b fun _ _ c => c = b := by
  cases verb with
  | create =>
    cases read : VolumeRequest.shape.decode body with
    | error error => exact leads_refused (by simp [read, Except.toOption])
    | ok request =>
      cases parsed : GivenName.read .standard request.name with
      | ok given => simp [Verb.name?, read, parsed, Except.toOption] at unread
      | error error =>
        simp only [Verb.work, Server.create, ofBody_of_decode read, parsed, Server.orReply]
        exact rfl
  | mount =>
    simp only [Verb.work, Server.mount, resolve_of_get serves]
    exact leads_refused (Option.map_eq_none_iff.1 unread)
  | unmount =>
    simp only [Verb.work, Server.unmount, resolve_of_get serves]
    exact leads_refused (Option.map_eq_none_iff.1 unread)
  | remove | path | get => exact leads_refused (Option.map_eq_none_iff.1 unread)

theorem leads_create_known (serves : s.registry.get s.driver = .ok d.toVolumeDriver) {v : Volume}
    (asked : Verb.create.name? body = some name) (means : b.Means name v) :
    (s.create body).Leads b fun _ reply c => c = b ∧ reply = success := by
  obtain ⟨request, read, known⟩ := Option.bind_eq_some_iff.1 asked
  obtain ⟨given, parsed, rfl⟩ := Option.map_eq_some_iff.1 known
  simp only [Server.create, ofBody_of_decode (toOption_eq_some.1 read), toOption_eq_some.1 parsed,
    resolve_of_get serves, Server.orReply]
  apply Routine.leads_bind.2
  apply leads_underName
  refine leads_bind.2 (leads_lift.2 (leads_volumeNamed (fun w _ => ?_) fun none => ?_))
  · exact ⟨rfl, rfl⟩
  · rw [Bench.named_iff.2 means] at none
    cases none

/-- What a name is good for. At the empty name every volume counts as going by it. -/
structure ByName (s : Server) (d : BlockDriver) (b : Bench) (name : String) : Prop where
  found : ∀ m v,
    ((volumeNamed d.toVolumeDriver name).outcome.run (b.world m)).1 = .ok v ↔ b.Means name v
  worked : ∀ verb body, Verb.name? verb body = some name → ∀ m mishaps reply w,
    (verb.work s body).Yields (b.world m) mishaps reply w →
      ∃ c later, w = c.world later ∧ b.Worked d (verb.Concerns s b name) c
  known : ∀ v, b.Means name v → ∀ body, Verb.create.name? body = some name →
    ∀ m mishaps reply w, (s.create body).Yields (b.world m) mishaps reply w →
      reply = success ∧ ∃ later, w = b.world later
  shown : ∀ body answer, Verb.get.name? body = some name → ∀ m mishaps reply w,
    (s.look body answer).Yields (b.world m) mishaps reply w →
      (∃ later, w = b.world later) ∧ ((∃ v, b.Means name v ∧ reply = answer name v) ∨
        (∀ v, ¬ b.Means name v) ∧ reply = notLocated (.notFound name))

theorem by_name (serves : s.registry.get s.driver = .ok d.toVolumeDriver) (sound : b.Sound)
    (name : String) : ByName s d b name := by
  constructor
  · intro m v
    obtain ⟨mishaps, yields⟩ := (volumeNamed d.toVolumeDriver name).outcome.yields_run (b.world m)
    obtain ⟨c, later, -, -, same, -⟩ := (leads_search d b name).sound yields
    rw [same, ← Bench.named_iff, outcomeOf]
    cases b.named name <;> simp
  · intro verb body asked m mishaps reply w yields
    exact (leads_work serves sound asked).sound yields
  · intro v means body asked m mishaps reply w yields
    obtain ⟨c, later, there, rfl, done⟩ := (leads_create_known serves asked means).sound yields
    exact ⟨done, later, there⟩
  · intro body answer asked m mishaps reply w yields
    obtain ⟨c, later, there, rfl, told⟩ := (leads_look serves asked answer).sound yields
    refine ⟨⟨later, there⟩, ?_⟩
    cases named : c.named name with
    | some v => exact .inl ⟨v, Bench.named_iff.1 named, by rw [told, named]⟩
    | none =>
      refine .inr ⟨?_, by rw [told, named]⟩
      intro v means
      rw [Bench.named_iff.2 means] at named
      cases named

/-- No name at all, in a store with one volume. -/
theorem no_name_of_data : ByName Family.dataServer Family.twoOfData.driver Family.dataBench "" :=
  by_name (by simp [Family.dataServer, DriverRegistry.get])
    ⟨Family.ready_data.own, Family.ready_data.unused⟩ ""

theorem no_name_finds_data :
    Family.firstOfData.id.text ≠ "" ∧ Family.firstOfData.locator.name ≠ "" ∧
      ((volumeNamed Family.twoOfData.driver.toVolumeDriver "").outcome.run
        (Family.dataBench.world .calm)).1 = .ok Family.firstOfData := by
  refine ⟨by decide, by decide, ?_⟩
  have means : Family.dataBench.Means "" Family.firstOfData := by
    refine .inr ⟨rfl, "first", rfl, .inl rfl, ?_⟩
    intro other w there _
    rcases Table.get?_insert_eq_some.1 there with ⟨same, -⟩ | ⟨-, none⟩
    · exact same.symm
    · cases none
  obtain ⟨mishaps, yields⟩ := (volumeNamed Family.twoOfData.driver.toVolumeDriver
    "").outcome.yields_run (Family.dataBench.world .calm)
  obtain ⟨c, later, -, -, same, -⟩ := (leads_search _ _ _).sound yields
  rw [same, outcomeOf, Bench.named_iff.2 means]

end BlockVolumes.Plugin
