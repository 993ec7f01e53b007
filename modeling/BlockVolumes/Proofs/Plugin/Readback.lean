import BlockVolumes.Proofs.Plugin.Unambiguous
import BlockVolumes.Proofs.Volume.GivenName

/-!
Names given back to a server. Volumes are listed under the names that they carry, and a request with
such a name is about the volume only if the name, given again, still stands for itself.
-/

namespace BlockVolumes.Plugin

open Operation
open GivenName (Gives)

variable {s : Server} {d : BlockDriver} {b c : Bench} {v : Volume} {raw name inner : String}
  {given : GivenName} {verb : Verb} {body : List UInt8}

def Verb.given? (verb : Verb) (body : List UInt8) : Option String :=
  match verb with
  | mount | unmount => (MountRequest.shape.decode body).toOption.map (·.name)
  | create | remove | path | get => (VolumeRequest.shape.decode body).toOption.map (·.name)

theorem Verb.name?_create (read : GivenName.read .standard raw = .ok given)
    (asked : create.given? body = some raw) : create.name? body = some given.name := by
  obtain ⟨request, decoded, rfl⟩ := Option.map_eq_some_iff.1 asked
  rw [name?, decoded, Option.bind_some, read]
  rfl

theorem Verb.name?_later (later : verb ≠ .create) (asked : verb.given? body = some name) :
    verb.name? body = some (Server.nameOf name) := by
  cases verb with
  | create => exact absurd rfl later
  | mount | unmount | remove | path | get =>
    obtain ⟨request, decoded, rfl⟩ := Option.map_eq_some_iff.1 asked
    rw [name?, decoded]
    rfl

/-- The name of the request, as the server understands it, is looked up with this volume as the
answer. -/
def Addresses (d : BlockDriver) (b : Bench) (verb : Verb) (body : List UInt8) (v : Volume) : Prop :=
  ∃ name, verb.name? body = some name ∧
    ∀ m, ((volumeNamed d.toVolumeDriver name).outcome.run (b.world m)).1 = .ok v

theorem addresses_iff (asked : verb.name? body = some name) :
    Addresses d b verb body v ↔ b.Means name v := by
  have looked : ∀ m, ((volumeNamed d.toVolumeDriver name).outcome.run (b.world m)).1 = .ok v ↔
      b.Means name v := by
    intro m
    rw [outcome_volumeNamed, outcomeOf, ← Bench.named_iff]
    cases b.named name <;> simp
  constructor
  · rintro ⟨also, known, found⟩
    obtain rfl := Option.some.inj (asked.symm.trans known)
    exact (looked .calm).1 (found .calm)
  · intro means
    exact ⟨name, asked, fun m => (looked m).2 means⟩

def Alone (b : Bench) (v : Volume) : Prop := ∀ id w, b.records.get? id = some w → id = v.id.text

theorem means_other_iff (own : b.OwnIds) (found : b.records.get? v.id.text = some v)
    (other : v.locator.name ≠ inner) :
    b.Means inner v ↔ v.id.text = inner ∨ inner = "" ∧ Alone b v := by
  constructor
  · rintro (there | ⟨-, id, there, goes, only⟩)
    · exact .inl (own _ _ there)
    · have empty : inner = "" := goes.resolve_right other
      refine .inr ⟨empty, ?_⟩
      intro key w kept
      rw [only key w kept (.inl empty), ← own _ _ there]
  · rintro (rfl | ⟨rfl, alone⟩)
    · exact .inl found
    · cases vacant : b.records.get? "" with
      | some w =>
        have same := alone "" w vacant
        rw [← same] at found
        exact .inl found
      | none =>
        refine .inr ⟨vacant, v.id.text, found, .inl rfl, ?_⟩
        intro key w kept _
        exact alone key w kept

theorem addresses_own_iff (own : b.OwnIds) (plain : GivenName.Plain v.locator.name)
    (found : b.records.get? v.id.text = some v) (later : verb ≠ .create)
    (asked : verb.given? body = some v.locator.name) :
    Addresses d b verb body v ↔
      ((∀ inner, ¬ Gives v.locator.name inner) ∧ b.Means v.locator.name v ∨
        ∃ inner, Gives v.locator.name inner ∧
          (v.id.text = inner ∨ inner = "" ∧ Alone b v)) := by
  have understood : Addresses d b verb body v ↔ b.Means (Server.nameOf v.locator.name) v :=
    addresses_iff (Verb.name?_later later asked)
  by_cases gives : ∃ inner, Gives v.locator.name inner
  · obtain ⟨inner, gives⟩ := gives
    have other := means_other_iff own found gives.ne.symm
    rw [understood, Server.nameOf, GivenName.nameOf_of_gives plain gives, other]
    constructor
    · exact fun reached => .inr ⟨inner, gives, reached⟩
    · rintro (⟨none, -⟩ | ⟨other, also, reached⟩)
      · exact absurd gives (none inner)
      · rwa [also.unique plain gives] at reached
  · have none : ∀ inner, ¬ Gives v.locator.name inner := not_exists.1 gives
    rw [understood, Server.nameOf, GivenName.nameOf_of_gives_none plain none]
    constructor
    · exact fun means => .inl ⟨none, means⟩
    · rintro (⟨-, means⟩ | ⟨inner, given, -⟩)
      · exact means
      · exact absurd given (none inner)

theorem leads_create_named (serves : s.registry.get s.driver = .ok d.toVolumeDriver)
    (sound : b.Sound) (asked : Verb.create.name? body = some name) :
    (s.create body).Leads b fun _ _ c => ∀ id v, c.records.get? id = some v →
      b.records.get? id = some v ∨ v.locator.name = name := by
  have handled : (Verb.create.work s body).Leads b (Handled s d b name .create) :=
    leads_handled serves sound asked
  apply handled.mono
  intro mishaps reply c handled id v found
  cases handled with
  | create goes made =>
    cases made with
    | there | unclear => exact .inl found
    | tried none clear created =>
      cases created.gains with
      | none same => exact .inl (same ▸ found)
      | one absent located newborn added =>
        rw [added, Table.get?_insert_eq_some] at found
        cases found with
        | inl new =>
          obtain ⟨-, rfl⟩ := new
          exact .inr ((congrArg Locator.name located).trans goes)
        | inr old => exact .inl old.2

theorem leads_list_names (serves : s.registry.get s.driver = .ok d.toVolumeDriver) :
    s.list.Leads b fun _ reply c => c = b ∧ reply = send ListReply.shape
      ⟨(inOrderOfCreation b.records.values).map fun v => infoOf v.locator.name v⟩ := by
  have all : ∀ w ∈ inOrderOfCreation b.records.values,
      (Locator.any.picks w.locator && Store.carries none w.spec.labels) = true := fun _ _ => rfl
  simp only [Server.list, resolve_of_get serves, Server.orReply]
  apply Routine.leads_bind.2
  apply BlockDriver.leads_consult (Store.enumerate_keeping b.kind b.records .any none)
  rw [List.filter_eq_self.2 all]
  exact ⟨rfl, rfl⟩

/-- A volume made under a name is listed under that name. A request that carries the name is about
the volume just if the name does not look like an option for a name, and stands for the volume; or
if what it gives then happens to be the ID of the volume, or is empty with no other volume kept. -/
theorem listed_name_addresses_iff (serves : s.registry.get s.driver = .ok d.toVolumeDriver)
    (sound : b.Sound) (accepted : GivenName.read .standard raw = .ok given) :
    (∀ body, Verb.create.given? body = some raw → ∀ m mishaps reply w,
      (s.create body).Yields (b.world m) mishaps reply w →
        ∃ c later, w = Bench.world c later ∧ ∀ id v, c.records.get? id = some v →
          b.records.get? id = some v ∨ v.locator.name = given.name) ∧
    (∀ m mishaps reply w, s.list.Yields (b.world m) mishaps reply w → reply = send ListReply.shape
      ⟨(inOrderOfCreation b.records.values).map fun v => infoOf v.locator.name v⟩) ∧
    (Server.nameOf given.name = given.name ↔ ∀ inner, ¬ Gives given.name inner) ∧
    (∀ inner, Gives given.name inner → Server.nameOf given.name = inner) ∧
    ∀ verb, verb ≠ .create → ∀ body, verb.given? body = some given.name →
      (verb.work s body).Leads b (Handled s d b (Server.nameOf given.name) verb) ∧
      ∀ v, b.records.get? v.id.text = some v → v.locator.name = given.name →
        (Addresses d b verb body v ↔
          ((∀ inner, ¬ Gives given.name inner) ∧ b.Means given.name v ∨
            ∃ inner, Gives given.name inner ∧
              (v.id.text = inner ∨ inner = "" ∧ Alone b v))) := by
  have plain := GivenName.plain_of_read accepted
  refine ⟨?_, ?_, GivenName.nameOf_eq_self_iff plain, ?_, ?_⟩
  · intro body asked m mishaps reply w yields
    exact (leads_create_named serves sound (Verb.name?_create accepted asked)).sound yields
  · intro m mishaps reply w yields
    obtain ⟨c, later, -, -, told⟩ := (leads_list_names serves).sound yields
    exact told
  · exact fun inner gives => GivenName.nameOf_of_gives plain gives
  · intro verb later body asked
    refine ⟨leads_handled serves sound (Verb.name?_later later asked), ?_⟩
    intro v found own
    rw [← own] at plain asked ⊢
    exact addresses_own_iff sound.own plain found later asked

def assigned : Volume :=
  .fresh ⟨"first"⟩ (.named "a=b") none Family.twoOfData.spec .epoch

def assignedBench : Bench := .ofRecords (Table.empty.insert "first" assigned)

def carrying (name : String) : List UInt8 := (VolumeRequest.shape.toJson ⟨name, none⟩).bytes

theorem listed_name_addresses_assigned :
    GivenName.read .standard "name=a=b" = .ok ⟨"a=b", some .standard, .empty⟩ ∧
    Verb.given? .get (carrying "a=b") = some "a=b" ∧
    Addresses Family.twoOfData.driver assignedBench .get (carrying "a=b") assigned := by
  have serves : Family.dataServer.registry.get Family.dataServer.driver =
      .ok Family.twoOfData.driver.toVolumeDriver := by
    simp [Family.dataServer, DriverRegistry.get]
  have only : ∀ id v, assignedBench.records.get? id = some v → id = "first" ∧ v = assigned := by
    intro id v found
    rcases Table.get?_insert_eq_some.1 found with ⟨rfl, rfl⟩ | ⟨-, none⟩
    · exact ⟨rfl, rfl⟩
    · cases none
  have sound : assignedBench.Sound := by
    refine ⟨?_, fun _ _ => rfl, fun _ _ => rfl⟩
    intro id v found
    obtain ⟨rfl, rfl⟩ := only id v found
    rfl
  have found : assignedBench.records.get? assigned.id.text = some assigned :=
    Table.get?_insert_self ..
  have means : assignedBench.Means "a=b" assigned :=
    .inr ⟨rfl, "first", found, .inr rfl, fun id v there _ => (only id v there).1⟩
  have accepted : GivenName.read .standard "name=a=b" =
      .ok ⟨"a=b", some .standard, .empty⟩ := by decide +kernel
  have asked : Verb.given? .get (carrying "a=b") = some "a=b" := by decide +kernel
  obtain ⟨-, -, again, -, requests⟩ := listed_name_addresses_iff serves sound accepted
  have none := again.1 (by decide +kernel)
  have later : Verb.get ≠ .create := by
    intro same
    cases same
  have own := (requests .get later _ asked).2 assigned found rfl
  exact ⟨accepted, asked, own.2 (.inl ⟨none, means⟩)⟩

def newNested : Routine Http.Reply := Family.dataServer.create (carrying "name=name=db")

def nested : World := (newNested.run ((Bench.ofRecords .empty).world .calm)).2

/-- What is read as the name of a volume is not read as itself. The volume is made and goes by the
name, and no request gets to it under that. -/
theorem listed_name_leads_nowhere :
    let s := Family.dataServer
    let body := carrying "name=db"
    let bodyOfMount := (MountRequest.shape.toJson ⟨"name=db", "client"⟩).bytes
    let missing := "Volume not found: db"
    GivenName.read .standard "name=name=db" = .ok ⟨"name=db", some .standard, .empty⟩ ∧
    Server.nameOf "name=db" ≠ "name=db" ∧
    succeeded (newNested.run ((Bench.ofRecords .empty).world .calm)).1 = true ∧
    (nested.record? "volume0").map (·.locator.name) = some "name=db" ∧
    errorIn ((s.remove body).run nested).1 = some missing ∧
    errorIn ((s.mount bodyOfMount).run nested).1 = some missing ∧
    errorIn ((s.unmount bodyOfMount).run nested).1 = some ("Failed to locate volume: " ++ missing) ∧
    errorIn ((s.path body).run nested).1 = some ("Failed to locate volume: " ++ missing) ∧
    errorIn ((s.get body).run nested).1 = some ("Failed to locate volume: " ++ missing) := by
  decide +kernel

end BlockVolumes.Plugin
