import BlockVolumes.Proofs.Plugin.Serving

/-! No two volumes come to share a name: whoever makes a volume under a name has looked for one of
that name before, and while names are shared by none a name that leads nowhere is carried by no
volume. -/

namespace BlockVolumes

namespace Bench

variable {b c : Bench} {name : String}

def Unambiguous (b : Bench) : Prop :=
  ∀ id v other w, b.records.get? id = some v → b.records.get? other = some w →
    v.locator.name ≠ "" → w.locator.name = v.locator.name → other = id

namespace Unambiguous

theorem means {id : String} {v : Volume} (unambiguous : b.Unambiguous)
    (found : b.records.get? id = some v) (given : v.locator.name ≠ "")
    (unknown : b.records.get? v.locator.name = none) : b.Means v.locator.name v := by
  refine .inr ⟨unknown, id, found, .inr rfl, ?_⟩
  rintro other w also (empty | goes)
  · exact absurd empty given
  · exact unambiguous id v other w found also given goes

theorem vacant (unambiguous : b.Unambiguous) (given : name ≠ "") (none : b.named name = none)
    {id : String} {v : Volume} (found : b.records.get? id = some v) : v.locator.name ≠ name := by
  rintro rfl
  have leads : ∃ w, b.Means v.locator.name w := by
    cases taken : b.records.get? v.locator.name with
    | some w => exact ⟨w, .inl taken⟩
    | none => exact ⟨v, unambiguous.means found given taken⟩
  obtain ⟨w, means⟩ := leads
  rw [named_iff.2 means] at none
  cases none

theorem gains {locator : Locator} (unambiguous : b.Unambiguous)
    (none : b.named locator.name = none) (gains : Gains locator b c) : c.Unambiguous := by
  cases gains with
  | none same =>
    unfold Unambiguous
    rwa [same]
  | @one new absent located newborn added =>
    have free : new.locator.name ≠ "" → ∀ {id v}, b.records.get? id = some v →
        v.locator.name ≠ new.locator.name := by
      intro given id v found
      rw [located] at given ⊢
      exact unambiguous.vacant given none found
    intro id v other w foundV foundW given same
    rw [added, Table.get?_insert_eq_some] at foundV foundW
    rcases foundV with ⟨rfl, rfl⟩ | ⟨-, oldV⟩
    · rcases foundW with ⟨here, -⟩ | ⟨-, oldW⟩
      · exact here.symm
      · exact absurd same (free given oldW)
    · rcases foundW with ⟨-, rfl⟩ | ⟨-, oldW⟩
      · exact absurd same.symm (free (same ▸ given) oldV)
      · exact unambiguous id v other w oldV oldW given same

theorem located (unambiguous : b.Unambiguous)
    (old : ∀ {id w}, c.records.get? id = some w →
      ∃ v, b.records.get? id = some v ∧ w.locator = v.locator) : c.Unambiguous := by
  intro id v other w foundV foundW given same
  obtain ⟨oldV, thereV, sameV⟩ := old foundV
  obtain ⟨oldW, thereW, sameW⟩ := old foundW
  rw [sameV] at given same
  rw [sameW] at same
  exact unambiguous id oldV other oldW thereV thereW given same

theorem recorded {key : String} {v w : Volume} (unambiguous : b.Unambiguous)
    (found : b.records.get? key = some v) (after : c.records = b.records.insert key w)
    (same : w.locator = v.locator) : c.Unambiguous := by
  apply unambiguous.located
  intro id u there
  rw [after, Table.get?_insert_eq_some] at there
  rcases there with ⟨rfl, rfl⟩ | ⟨-, old⟩
  · exact ⟨v, found, same⟩
  · exact ⟨u, old, rfl⟩

theorem withFiles {result : Except IoError Files} (unambiguous : b.Unambiguous) :
    (b.withFiles result).2.Unambiguous := by
  cases result <;> exact unambiguous

variable {id : VolumeId} {path : String} {mishaps : List Mishap}
  {result : Except VolumeError Unit}

theorem deleted (unambiguous : b.Unambiguous)
    (deleted : BlockDriver.Deleted id b mishaps result c) : c.Unambiguous := by
  cases deleted with
  | missing | unregistered | unlinked | kept => exact unambiguous
  | done =>
    apply unambiguous.located
    intro key w found
    exact ⟨w, (Table.get?_erase_eq_some.1 found).2, rfl⟩

theorem mounted (unambiguous : b.Unambiguous)
    (mounted : BlockDriver.Mounted id path b mishaps result c) : c.Unambiguous := by
  cases mounted with
  | missing | occupied | refused => exact unambiguous
  | done found => exact unambiguous.recorded found rfl rfl

theorem unmounted (unambiguous : b.Unambiguous)
    (unmounted : BlockDriver.Unmounted id b mishaps result c) : c.Unambiguous := by
  cases unmounted with
  | missing | free | refused => exact unambiguous
  | done found => exact unambiguous.recorded found rfl rfl

end Unambiguous

theorem Unambiguous.pairwise (unambiguous : b.Unambiguous) :
    (inOrderOfCreation b.records.values).Pairwise fun v w =>
      v.locator.name ≠ "" → v.locator.name ≠ w.locator.name := by
  have apart : b.records.values.Pairwise fun v w =>
      v.locator.name ≠ "" → v.locator.name ≠ w.locator.name := by
    refine List.pairwise_map.2 (b.records.ascending.imp_of_mem fun {e f} first second below => ?_)
    intro given same
    have one := unambiguous e.1 e.2 f.1 f.2 (Table.get?_eq_some_iff.2 first)
      (Table.get?_eq_some_iff.2 second) given same.symm
    exact absurd (one ▸ below) (String.lt_irrefl _)
  refine ((Store.perm_inOrderOfCreation _).pairwise_iff ?_).2 apart
  intro v w differ given same
  exact differ (same ▸ given) same.symm

end Bench

namespace Plugin

variable {s : Server} {d : BlockDriver} {b c : Bench} {v : Volume} {name place : String}
  {mishaps : List Mishap}

theorem Grows.unambiguous (unambiguous : b.Unambiguous) (grows : Grows d b c) :
    c.Unambiguous := by
  induction grows with
  | done => exact unambiguous
  | made none created _ ih => exact ih (unambiguous.gains none created.gains)

theorem Removed.unambiguous {result : Except VolumeError Unit} (unambiguous : b.Unambiguous)
    (removed : Removed d name b mishaps result c) : c.Unambiguous := by
  cases removed with
  | missing => exact unambiguous
  | tried _ deleted => exact unambiguous.deleted deleted

theorem Mounting.unambiguous {result : Except VolumeError Unit} (unambiguous : b.Unambiguous)
    (mounting : Mounting d name place b mishaps result c) : c.Unambiguous := by
  cases mounting with
  | missing => exact unambiguous
  | unready _ taken => exact taken.grows.unambiguous unambiguous
  | tried _ taken mounted => exact (taken.grows.unambiguous unambiguous).withFiles.mounted mounted

theorem Unmounting.unambiguous {result : Except VolumeError Unit} (unambiguous : b.Unambiguous)
    (unmounting : Unmounting v place b mishaps result c) : c.Unambiguous := by
  cases unmounting with
  | bare => exact unambiguous
  | tried _ unmounted => exact unambiguous.unmounted unmounted

theorem Handled.unambiguous {verb : Verb} {reply : Http.Reply} (unambiguous : b.Unambiguous)
    (handled : Handled s d b name verb mishaps reply c) : c.Unambiguous := by
  cases handled with
  | create _ made => exact made.grows.unambiguous unambiguous
  | remove removed => exact removed.unambiguous unambiguous
  | mount mounting => exact mounting.unambiguous unambiguous
  | unmount _ unmounting => exact unmounting.unambiguous unambiguous
  | unknown | path | get => exact unambiguous

theorem Done.unambiguous {reply : Http.Reply} (unambiguous : b.Unambiguous)
    (done : Done s d b mishaps reply c) : c.Unambiguous := by
  rcases done with rfl | ⟨verb, name, handled⟩
  · exact unambiguous
  · exact handled.unambiguous unambiguous

inductive Server.Reaches (s : Server) (start : World) : World → Prop
  | start : Reaches s start start
  | request {request : Http.Request} {mishaps : List Mishap} {reply : Http.Reply} {w v : World}
      (reached : Reaches s start w) (yields : (s.serve request).Yields w mishaps reply v) :
    Reaches s start v

theorem Server.Reaches.unambiguous {m : Moment} {w : World}
    (reached : s.Reaches (b.world m) w) (serves : s.registry.get s.driver = .ok d.toVolumeDriver)
    (sound : b.Sound) (unambiguous : b.Unambiguous) :
    ∃ (c : Bench) (later : Moment), w = c.world later ∧ c.Sound ∧ c.Unambiguous := by
  induction reached with
  | start => exact ⟨b, m, rfl, sound, unambiguous⟩
  | request _ yields ih =>
    obtain ⟨c, later, rfl, sound, unambiguous⟩ := ih
    obtain ⟨e, after, rfl, done⟩ := (leads_request serves sound _).sound yields
    exact ⟨e, after, rfl, (done.touched sound).sound sound, done.unambiguous unambiguous⟩

/-- The volumes that the store lists: none share a name, and a name that is no volume's ID leads to
the volume that carries it. Volumes without a name do not count. -/
structure Resolves (d : BlockDriver) (w : World) (volumes : List Volume) : Prop where
  listed : w.store.list = .ok volumes
  apart : volumes.Pairwise fun u v => u.locator.name ≠ "" → u.locator.name ≠ v.locator.name
  found : ∀ v ∈ volumes, v.locator.name ≠ "" → (∀ u ∈ volumes, u.id.text ≠ v.locator.name) →
    ((volumeNamed d.toVolumeDriver v.locator.name).outcome.run w).1 = .ok v

theorem resolves (sound : b.Sound) (unambiguous : b.Unambiguous) (m : Moment) :
    Resolves d (b.world m) (inOrderOfCreation b.records.values) where
  listed := Store.list_keeping b.kind b.records
  apart := unambiguous.pairwise
  found := by
    intro v member given fresh
    obtain ⟨id, found⟩ := Table.mem_values.1 (Store.mem_inOrderOfCreation.1 member)
    have unknown : b.records.get? v.locator.name = none := by
      apply Option.eq_none_iff_forall_ne_some.2
      intro u there
      have listed := Store.mem_inOrderOfCreation.2 (Table.mem_values.2 ⟨_, there⟩)
      exact fresh u listed (sound.own _ _ there)
    have means := unambiguous.means found given unknown
    obtain ⟨mishaps, yields⟩ :=
      (volumeNamed d.toVolumeDriver v.locator.name).outcome.yields_run (b.world m)
    obtain ⟨c, later, -, -, same, -⟩ := (leads_search d b v.locator.name).sound yields
    rw [same, outcomeOf, Bench.named_iff.2 means]

def Server.after (s : Server) (w : World) : List Http.Request → World
  | [] => w
  | request :: later => s.after ((s.serve request).run w).2 later

theorem Server.Reaches.after {start w : World} (reached : s.Reaches start w)
    (requests : List Http.Request) : s.Reaches start (s.after w requests) := by
  induction requests generalizing w with
  | nil => exact reached
  | cons request later ih =>
    obtain ⟨mishaps, yields⟩ := (s.serve request).yields_run w
    exact ih (reached.request yields)

def asked (name : String) (body : Json) : Http.Request :=
  ⟨"POST", ⟨("/VolumeDriver." ++ name).toUTF8.toList, []⟩, body.bytes⟩

def creation (name : String) : Http.Request :=
  asked "Create" (VolumeRequest.shape.toJson ⟨name, none⟩)

def mounting (name client : String) : Http.Request :=
  asked "Mount" (MountRequest.shape.toJson ⟨name, client⟩)

def crowding : List Http.Request :=
  [creation "name=db,size=4K,fs=ext4,scale=3", creation "db_1", mounting "db" "first",
    mounting "db" "second", creation "db_2", mounting "db" "third", creation "db"]

/-- Whatever is asked of a server that starts over an empty store, and whatever goes wrong on the
way, no two volumes come to share a name. -/
theorem names_stay_apart {m : Moment} {w : World}
    (serves : s.registry.get s.driver = .ok d.toVolumeDriver) (empty : b.records = .empty)
    (unused : b.NamesUnused) (reached : s.Reaches (b.world m) w) :
    ∃ volumes, Resolves d w volumes := by
  have unambiguous : b.Unambiguous := by
    intro id v other w found
    rw [Bench.absent_of_empty empty] at found
    cases found
  obtain ⟨c, later, rfl, sound, unambiguous⟩ :=
    reached.unambiguous serves (.of_empty empty unused) unambiguous
  exact ⟨_, resolves sound unambiguous later⟩

theorem names_stay_apart_when_crowding : ∃ volumes, Resolves ⟨"nbd", "/volumes"⟩
    (Family.dataServer.after ((Bench.ofRecords .empty).world .calm) crowding) volumes := by
  apply names_stay_apart (s := Family.dataServer) (b := .ofRecords .empty)
  · simp [Family.dataServer, DriverRegistry.get, Family.twoOfData]
  · rfl
  · exact ⟨fun _ _ => rfl, fun _ _ => rfl⟩
  · exact Server.Reaches.start.after crowding

end Plugin

end BlockVolumes
