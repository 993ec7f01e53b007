import BlockVolumes.Proofs.Driver.Snapshot

/-! A driver whose store may refuse to delete records. A routine that deletes none does not notice.
A deletion does so only when the device and the file are gone already. -/

namespace BlockVolumes

open Operation

variable {α β : Type} {calls : List StoreCall} {b : Bench} {m : Moment}

def World.refusing (calls : List StoreCall) (w : World) : World :=
  { w with store := { w.store with refused := calls } }

def OnlyDeletions (calls : List StoreCall) : Prop := ∀ call ∈ calls, call = .delete

namespace OnlyDeletions

theorem none : OnlyDeletions [] := fun _ told => nomatch told

theorem allows (only : OnlyDeletions calls) (call : StoreCall) (other : call ≠ .delete) :
    call ∉ calls :=
  fun told => other (only call told)

end OnlyDeletions

theorem World.refusing_refusing (w : World) (calls more : List StoreCall) :
    (w.refusing calls).refusing more = w.refusing more := rfl

theorem Bench.refusing_none (b : Bench) (m : Moment) :
    (b.world m).refusing [] = b.world m := by
  cases b with
  | mk kind => cases kind <;> rfl

namespace Store

variable (kind : StoreKind) (records : Table Volume)

theorem get_refusing (only : OnlyDeletions calls) (id : VolumeId) :
    { keeping kind records with refused := calls }.get id = (keeping kind records).get id := by
  have allowed := only.allows .get (by decide)
  cases kind <;> simp [get, guarded, keeping, allowed]

theorem changing_refusing {call : StoreCall} (allowed : call ∉ calls)
    (inMemory : MemoryStore → Except StoreError Unit × MemoryStore)
    (onDisk : PersistentStore → Except StoreError Unit × PersistentStore) :
    { keeping kind records with refused := calls }.changing call inMemory onDisk =
      ((keeping kind records).changing call inMemory onDisk).map id
        ({ · with refused := calls }) := by
  cases kind <;> simp only [changing, keeping, allowed, if_false, List.not_mem_nil] <;> rfl

theorem create_refusing (only : OnlyDeletions calls) (v : Volume) :
    { keeping kind records with refused := calls }.create v =
      ((keeping kind records).create v).map id ({ · with refused := calls }) :=
  changing_refusing kind records (only.allows .create (by decide)) (·.create v) (·.create v)

theorem update_refusing (only : OnlyDeletions calls) (v : Volume) :
    { keeping kind records with refused := calls }.update v =
      ((keeping kind records).update v).map id ({ · with refused := calls }) :=
  changing_refusing kind records (only.allows .update (by decide)) (·.update v) (·.update v)

theorem delete_refusing (calls : List StoreCall) (volume : VolumeId) :
    { keeping kind records with refused := calls }.delete volume =
        (.error (.database "injected"), { keeping kind records with refused := calls }) ∨
      { keeping kind records with refused := calls }.delete volume =
        ((keeping kind records).delete volume).map id ({ · with refused := calls }) := by
  by_cases told : StoreCall.delete ∈ calls
  · exact .inl (if_pos told)
  · exact .inr (changing_refusing kind records told (·.delete volume) (·.delete volume))

end Store

def Effect.Unfazed : {β : Type} → Effect β → Prop
  | _, .consult query => ∀ calls kind records, OnlyDeletions calls →
    query { Store.keeping kind records with refused := calls } = query (.keeping kind records)
  | _, .deleteRecord _ => False
  | _, _ => True

theorem World.withFiles_refusing (w : World) (result : Except IoError Files) :
    (w.refusing calls).withFiles result =
      ((w.withFiles result).1, (w.withFiles result).2.refusing calls) := by
  cases result <;> rfl

theorem Effect.Unfazed.perform_refusing {effect : Effect β} (unfazed : effect.Unfazed)
    (only : OnlyDeletions calls) (b : Bench) (m : Moment) :
    effect.perform ((b.world m).refusing calls) =
      ((effect.perform (b.world m)).1, (effect.perform (b.world m)).2.refusing calls) := by
  cases effect with
  | deleteRecord => exact unfazed.elim
  | consult query => exact congrArg (·, (b.world m).refusing calls) (unfazed calls _ _ only)
  | createRecord v =>
    exact congrArg (World.answering · fun store => { (b.world m).refusing calls with store })
      (Store.create_refusing b.kind b.records only v)
  | updateRecord v =>
    exact congrArg (World.answering · fun store => { (b.world m).refusing calls with store })
      (Store.update_refusing b.kind b.records only v)
  | createFile | resizeFile | removeFile | copyFile | makeDirectories =>
    exact (b.world m).withFiles_refusing _
  | now => simp only [perform, World.refusing]
  | _ => rfl

namespace Routine

def Unfazed : Routine α → Prop
  | done _ => True
  | call effect next => effect.Unfazed ∧ ∀ answer, (next answer).Unfazed

theorem Unfazed.bind {r : Routine α} {f : α → Routine β} (unfazed : r.Unfazed)
    (later : ∀ value, (f value).Unfazed) : (r >>= f).Unfazed := by
  induction r with
  | done value => exact later value
  | call effect next ih => exact ⟨unfazed.1, fun answer => ih answer (unfazed.2 answer)⟩

end Routine

namespace Routine

variable {r : Routine α} {post : List Mishap → α → Bench → Prop}

def Ensures (calls : List StoreCall) (r : Routine α) (b : Bench)
    (post : List Mishap → α → Bench → Prop) : Prop :=
  ∀ m mishaps value v, r.Yields ((b.world m).refusing calls) mishaps value v →
    ∃ c later, v = (c.world later).refusing calls ∧ post mishaps value c

theorem Ensures.mono {post' : List Mishap → α → Bench → Prop} (ensures : r.Ensures calls b post)
    (weaker : ∀ mishaps value c, post mishaps value c → post' mishaps value c) :
    r.Ensures calls b post' := by
  intro m mishaps value v yields
  obtain ⟨c, later, same, reached⟩ := ensures m mishaps value v yields
  exact ⟨c, later, same, weaker _ _ _ reached⟩

theorem Ensures.bind {f : α → Routine β} {post' : List Mishap → β → Bench → Prop}
    (ensures : r.Ensures calls b post)
    (next : ∀ mishaps value c, post mishaps value c →
      (f value).Ensures calls c fun rest => post' (mishaps ++ rest)) :
    (r >>= f).Ensures calls b post' := by
  intro m mishaps value v yields
  obtain ⟨early, late, first, u, rfl, before, behind⟩ := yields.of_bind
  obtain ⟨c, between, rfl, reached⟩ := ensures m early first u before
  exact next early first c reached between late value v behind

theorem ensures_done {value : α} (reached : post [] value b) :
    (done value).Ensures calls b post := by
  rintro m mishaps _ _ ⟨rfl, rfl, rfl⟩
  exact ⟨b, m, rfl, reached⟩

theorem Leads.ensures (leads : r.Leads b post) (unfazed : r.Unfazed) (only : OnlyDeletions calls) :
    r.Ensures calls b post := by
  intro m mishaps value v yields
  induction r generalizing b m post mishaps with
  | done result =>
    obtain ⟨rfl, rfl, rfl⟩ := yields
    exact ⟨b, m, rfl, leads⟩
  | call effect next ih =>
    obtain ⟨faults, answer, after, rest, answered, rfl, later⟩ := yields
    have told : ((b.world m).refusing calls).under faults =
        (b.world { m with faults }).refusing calls := rfl
    obtain ⟨moment, performed⟩ := effect.perform_world b { m with faults }
    rw [told, unfazed.1.perform_refusing only, performed] at answered
    cases answered
    exact ih _ (leads _) (unfazed.2 _) _ _ later

theorem ensures_unlock {claim : Claim} {value : α} (only : OnlyDeletions calls)
    (reached : post [] value b) :
    (do perform (.unlockVolume claim); return value).Ensures calls b post := by
  have unlocking : (do perform (.unlockVolume claim); return value).Leads b post := fun _ => reached
  exact unlocking.ensures ⟨trivial, fun _ => trivial⟩ only

theorem ensures_deleteRecord {id : VolumeId} {post : List Mishap → Except StoreError Unit → _ → _}
    (refused : post [] (.error (.database "injected")) b)
    (told : ∀ m,
      post [] (Effect.on m b (.deleteRecord id)).1 (Effect.on m b (.deleteRecord id)).2) :
    (perform (.deleteRecord id)).Ensures calls b post := by
  rintro m mishaps value v ⟨faults, answer, after, _, answered, rfl, rfl, rfl, rfl⟩
  have answered : World.answering
      ({ Store.keeping b.kind b.records with refused := calls }.delete id)
      (fun store => { (b.world { m with faults }).refusing calls with store }) = (value, v) :=
    answered
  rcases Store.delete_refusing b.kind b.records calls id with denied | gone
  · rw [denied] at answered
    cases answered
    exact ⟨b, _, rfl, refused⟩
  · rw [gone] at answered
    obtain ⟨moment, performed⟩ := Effect.perform_world (.deleteRecord id) b { m with faults }
    have same : (((Effect.deleteRecord id).perform (b.world { m with faults })).1,
        ((Effect.deleteRecord id).perform (b.world { m with faults })).2.refusing calls) =
          (value, v) := answered
    rw [performed] at same
    cases same
    exact ⟨_, moment, rfl, told _⟩

end Routine

namespace Operation

theorem unfazed_bind {operation : Operation α} {next : α → Operation β}
    (unfazed : operation.outcome.Unfazed) (later : ∀ value, (next value).outcome.Unfazed) :
    (operation >>= next).outcome.Unfazed := by
  rw [outcome_bind]
  apply unfazed.bind
  intro result
  cases result with
  | ok value => exact later value
  | error error => trivial

theorem unfazed_throw (error : VolumeError) : (throw error : Operation α).outcome.Unfazed := trivial

theorem unfazed_pure (value : α) : (pure value : Operation α).outcome.Unfazed := trivial

theorem unfazed_perform {effect : Effect α} (unfazed : effect.Unfazed) :
    (perform effect).outcome.Unfazed :=
  ⟨unfazed, fun _ => trivial⟩

theorem unfazed_attempt {ε : Type} {effect : Effect (Except ε α)} (meaning : ε → VolumeError)
    (unfazed : effect.Unfazed) : (attempt effect meaning).outcome.Unfazed := by
  apply unfazed_bind (unfazed_perform unfazed)
  intro answer
  cases answer with
  | ok value => exact unfazed_pure value
  | error error => exact unfazed_throw _

end Operation

namespace BlockDriver

variable {d : BlockDriver} {id : VolumeId}

theorem unfazed_record (id : VolumeId) : (record id).outcome.Unfazed := by
  apply unfazed_bind
  · exact unfazed_attempt _ fun calls kind records only => Store.get_refusing kind records only id
  · intro found
    cases found with
    | some v => exact unfazed_pure v
    | none => exact unfazed_throw _

theorem unfazed_underLock {work : Operation α} (unfazed : work.outcome.Unfazed) :
    (underLock id work).outcome.Unfazed :=
  .bind ⟨trivial, fun _ => trivial⟩ fun _ => unfazed.bind fun _ => ⟨trivial, fun _ => trivial⟩

theorem unfazed_mount (id : VolumeId) (path : String) : (mount id path).outcome.Unfazed := by
  refine unfazed_underLock (unfazed_bind (unfazed_record id) fun v => ?_)
  cases v.mountPath? with
  | some mounted => exact unfazed_throw _
  | none =>
    apply unfazed_bind (unfazed_attempt _ (by trivial))
    intro _
    exact unfazed_bind (unfazed_perform (by trivial)) fun _ => unfazed_attempt _ (by trivial)

theorem unfazed_unmount (id : VolumeId) : (unmount id).outcome.Unfazed := by
  refine unfazed_underLock (unfazed_bind (unfazed_record id) fun v => ?_)
  cases v.mountPath? with
  | none => exact unfazed_throw _
  | some mounted =>
    exact unfazed_bind (unfazed_attempt _ (by trivial)) fun _ => unfazed_attempt _ (by trivial)

theorem unfazed_set (id : VolumeId) (locator : Option Locator) (spec : Option Spec) :
    (set id locator spec).outcome.Unfazed := by
  cases spec with
  | some spec => exact unfazed_throw _
  | none =>
    refine unfazed_underLock (unfazed_bind (unfazed_record id) fun v => ?_)
    exact unfazed_attempt _ (by trivial)

theorem unfazed_attach (d : BlockDriver) (id : VolumeId) : (d.attach id).outcome.Unfazed := by
  refine unfazed_underLock (unfazed_bind (unfazed_record id) fun v => ?_)
  cases v.isMounted with
  | true => exact unfazed_throw _
  | false => exact unfazed_pure _

theorem unfazed_detach (id : VolumeId) : (detach id).outcome.Unfazed :=
  unfazed_underLock (unfazed_bind (unfazed_record id) fun _ => unfazed_pure _)

theorem unfazed_takeApart (id : VolumeId) : (takeApart id).outcome.Unfazed := by
  refine unfazed_bind (unfazed_record id) fun v => ?_
  apply unfazed_bind (unfazed_perform (by trivial))
  intro taken
  cases taken with
  | none => exact unfazed_throw _
  | some device =>
    apply unfazed_bind (unfazed_perform (by trivial))
    rintro ⟨answer, link⟩
    cases answer with
    | error error => exact unfazed_bind (unfazed_perform (by trivial)) fun _ => unfazed_throw _
    | ok _ => exact unfazed_bind (unfazed_perform (by trivial)) fun _ => unfazed_pure _

theorem unfazed_discard (file : String) (link : Option Link) :
    (discard file link).outcome.Unfazed := by
  have clearing : (perform (.removeFile file) >>= fun _ => pure ()).outcome.Unfazed :=
    unfazed_bind (unfazed_perform (by trivial)) fun _ => unfazed_pure ()
  cases link with
  | none => exact clearing
  | some link => exact unfazed_bind (unfazed_perform (by trivial)) fun _ => clearing

theorem unfazed_orDiscard {ε : Type} (result : Except ε α) (file : String) (link : Option Link)
    (meaning : ε → VolumeError) : (orDiscard result file link meaning).outcome.Unfazed := by
  cases result with
  | ok value => exact unfazed_pure value
  | error error => exact unfazed_bind (unfazed_discard file link) fun _ => unfazed_throw _

theorem unfazed_attemptOrDiscard {ε : Type} {effect : Effect (Except ε α)}
    (unfazed : effect.Unfazed) (file : String) (link : Option Link) (meaning : ε → VolumeError) :
    (attemptOrDiscard effect file link meaning).outcome.Unfazed :=
  unfazed_bind (unfazed_perform unfazed) fun _ => unfazed_orDiscard _ _ _ _

theorem unfazed_createUnchecked (d : BlockDriver) (locator : Locator) (source : Option Source)
    (spec : Spec) : (d.createUnchecked locator source spec).outcome.Unfazed := by
  refine unfazed_bind (unfazed_perform (by trivial)) fun id => unfazed_underLock ?_
  apply unfazed_bind (unfazed_attempt _ (by trivial))
  intro _
  apply unfazed_bind (unfazed_attemptOrDiscard (by trivial) _ _ _)
  intro _
  apply unfazed_bind (unfazed_perform (by trivial))
  rintro ⟨connected, link⟩
  apply unfazed_bind (unfazed_orDiscard connected _ _ _)
  intro device
  apply unfazed_bind (unfazed_attemptOrDiscard (by trivial) _ _ _)
  intro _
  apply unfazed_bind (unfazed_perform (by trivial))
  intro now
  apply unfazed_bind (unfazed_perform (by trivial))
  intro _
  apply unfazed_bind (unfazed_perform (by trivial))
  intro answer
  cases answer with
  | ok _ => exact unfazed_pure id
  | error error =>
    apply unfazed_bind (unfazed_perform (by trivial))
    intro taken
    exact unfazed_bind (unfazed_discard _ _) fun _ => unfazed_throw _

inductive Scrapped (id : VolumeId) (b : Bench) :
    List Mishap → Except VolumeError Unit → Bench → Prop
  | deleted {mishaps : List Mishap} {result : Except VolumeError Unit} {c : Bench}
      (deleted : Deleted id b mishaps result c) : Scrapped id b mishaps result c
  | torn {v : Volume} {device : BlockDevice} {name : String}
      (found : b.records.get? id.text = some v)
      (registered : b.devices.devices.get? v.device = some device)
      (linked : device.link.device = some name) :
    Scrapped id b [] (.error (.store (.database "injected"))) (stripped b v device name)

theorem ensures_underLock {work : Operation α}
    {post : List Mishap → Except VolumeError α → Bench → Prop}
    (ensures : work.outcome.Ensures calls b post) (only : OnlyDeletions calls) :
    (underLock id work).outcome.Ensures calls b post := by
  have locking : (Routine.perform (.lockVolume id)).Leads b fun mishaps _ c =>
      mishaps = [] ∧ b = c := Routine.leads_perform.2 fun _ => ⟨rfl, rfl⟩
  apply (locking.ensures ⟨trivial, fun _ => trivial⟩ only).bind
  rintro _ claim _ ⟨rfl, rfl⟩
  apply ensures.bind
  intro mishaps result c reached
  exact Routine.ensures_unlock only (by simpa using reached)

theorem ensures_delete (only : OnlyDeletions calls) :
    (delete id).outcome.Ensures calls b (Scrapped id b) := by
  rw [delete_eq]
  refine ensures_underLock ?_ only
  rw [outcome_bind]
  apply (leads_takeApart.ensures (unfazed_takeApart id) only).bind
  intro mishaps result c apart
  cases apart with
  | failed failed =>
    exact Routine.ensures_done (by simpa using Scrapped.deleted failed)
  | @done v device name found registered linked =>
    have known : b.records.contains id.text = true := Table.contains_iff.2 ⟨v, found⟩
    have deleting : (Routine.perform (.deleteRecord id)).Ensures calls (stripped b v device name)
        fun rest answer e => Scrapped id b rest (answer.mapError .ofStore) e := by
      apply Routine.ensures_deleteRecord
      · exact .torn found registered linked
      · intro m
        simpa [Effect.on, stripped, known] using
          Scrapped.deleted (.done found registered linked)
    rw [outcome_attempt]
    apply deleting.bind
    intro rest answer e scrapped
    exact Routine.ensures_done (by simpa using scrapped)

end BlockDriver

end BlockVolumes
