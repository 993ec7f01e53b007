import BlockVolumes.Proofs.Driver.Invariant

/-! Calls on the bench one after the other, as a request makes them. -/

namespace BlockVolumes

open Operation

def Call.on? : Call → Option VolumeId
  | init | create _ _ _ => none
  | delete id | mount id _ | unmount id _ | snapshot id _ _ | set id _ _ | attach id | detach id =>
    some id

def Call.remounts : Call → Bool
  | mount _ _ | unmount _ _ => true
  | _ => false

def Call.looks : Call → Bool
  | attach _ | detach _ => true
  | _ => false

theorem Call.still_of_looks {call : Call} (looks : call.looks = true) : call.remounts = false := by
  cases call with
  | attach | detach => rfl
  | init | create | delete | mount | unmount | snapshot | set => cases looks

inductive Settling : List Attempt → Prop
  | none : Settling []
  | still {attempt : Attempt} {later : List Attempt} (still : attempt.call.remounts = false)
      (rest : Settling later) : Settling (attempt :: later)
  | last {attempt : Attempt} {later : List Attempt}
      (looking : ∀ a ∈ later, a.call.looks = true) : Settling (attempt :: later)

theorem Settling.after {attempts more : List Attempt}
    (still : ∀ a ∈ attempts, a.call.remounts = false) (settling : Settling more) :
    Settling (attempts ++ more) := by
  induction attempts with
  | nil => exact settling
  | cons first later ih =>
    have rest := ih fun a member => still a (List.mem_cons_of_mem _ member)
    exact .still (still first List.mem_cons_self) rest

theorem Settling.looking {attempts : List Attempt} (looking : ∀ a ∈ attempts, a.call.looks = true) :
    Settling attempts := by
  have still : ∀ a ∈ attempts, a.call.remounts = false :=
    fun a member => Call.still_of_looks (looking a member)
  simpa using Settling.after still .none

namespace Bench

/-- Attempts that lead from one bench to another, in their order. Directories may be made between
them. -/
inductive Course (d : BlockDriver) : Bench → List Attempt → Bench → Prop
  | done {b : Bench} : Course d b [] b
  | call {b c e : Bench} {attempt : Attempt} {later : List Attempt}
      (ends : attempt.call.Ends d b attempt.mishaps attempt.result c) (rest : Course d c later e) :
    Course d b (attempt :: later) e
  | directories {b e : Bench} {attempts : List Attempt} (path : String)
      (rest : Course d (b.withFiles (b.files.makeDirectories path)).2 attempts e) :
    Course d b attempts e

variable {d : BlockDriver} {b c e : Bench} {attempts more : List Attempt} {P : Bench → Prop}

namespace Course

theorem single {call : Call} {mishaps : List Mishap} {result : Except VolumeError Unit}
    (ends : call.Ends d b mishaps result c) : Course d b [⟨call, mishaps, result⟩] c :=
  .call ends .done

theorem append (first : Course d b attempts c) (next : Course d c more e) :
    Course d b (attempts ++ more) e := by
  induction first with
  | done => exact next
  | call ends _ ih => exact .call ends (ih next)
  | directories path _ ih => exact .directories path (ih next)

theorem keeps (kept : Kept d P) (own : ∀ {b : Bench}, P b → b.OwnIds)
    (directories : ∀ {b : Bench} (files : Files), P b → P { b with files }) (holds : P b)
    (course : Course d b attempts c) : P c := by
  induction course with
  | done => exact holds
  | call ends _ ih => exact ih (kept.step (own holds) holds ends)
  | @directories b _ _ path _ ih =>
    apply ih
    cases b.files.makeDirectories path with
    | ok files => exact directories files holds
    | error error => exact holds

theorem sound (course : Course d b attempts c) (sound : Sound b) : Sound c :=
  course.keeps (Sound.kept d) Sound.own
    (fun _ sound => ⟨sound.own, sound.unused.connected, sound.unused.registered⟩) sound

end Course

def Persists (b c : Bench) : Prop := ∀ id v, b.records.get? id = some v → c.records.get? id = some v

theorem Persists.refl (b : Bench) : b.Persists b := fun _ _ found => found

theorem Persists.trans (first : b.Persists c) (next : c.Persists e) : b.Persists e :=
  fun id v found => next id v (first id v found)

theorem Gains.persists {locator : Locator} (gains : Gains locator b c) : b.Persists c := by
  intro id v found
  cases gains with
  | none same => rwa [same]
  | one absent _ _ added =>
    rw [added]
    exact Table.get?_insert_of_absent _ absent found

def WorksOn (b : Bench) (such : Volume → Prop) (attempts : List Attempt) : Prop :=
  ∀ a ∈ attempts, ∀ id v, a.call.on? = some id → b.records.get? id.text = some v → such v

theorem WorksOn.single {such : Volume → Prop} {attempt : Attempt}
    (on : ∀ id v, attempt.call.on? = some id → b.records.get? id.text = some v → such v) :
    b.WorksOn such [attempt] :=
  List.forall_mem_singleton.2 on

theorem WorksOn.append {such : Volume → Prop} (first : b.WorksOn such attempts)
    (next : b.WorksOn such more) : b.WorksOn such (attempts ++ more) :=
  List.forall_mem_append.2 ⟨first, next⟩

theorem WorksOn.before {such : Volume → Prop} (persists : b.Persists c)
    (works : c.WorksOn such attempts) : b.WorksOn such attempts :=
  fun a member id v on found => works a member id v on (persists _ _ found)

/-- What a request may come to: calls on such volumes or on new ones, with at most one change of
what is mounted. -/
def Worked (d : BlockDriver) (b : Bench) (such : Volume → Prop) (c : Bench) : Prop :=
  ∃ attempts, Course d b attempts c ∧ b.WorksOn such attempts ∧ Settling attempts

theorem Worked.idle (d : BlockDriver) (b : Bench) (such : Volume → Prop) : b.Worked d such b :=
  ⟨[], .done, by simp [WorksOn], .none⟩

theorem Worked.single {such : Volume → Prop} (call : Call) {mishaps : List Mishap}
    {result : Except VolumeError Unit} (ends : call.Ends d b mishaps result c)
    (on : ∀ id v, call.on? = some id → b.records.get? id.text = some v → such v) :
    b.Worked d such c :=
  ⟨_, .single ends, .single on, .last (by simp)⟩

def Called (d : BlockDriver) (b : Bench) (calls : List Call) (c : Bench) : Prop :=
  ∃ attempts, Course d b attempts c ∧ (attempts.map (·.call)).Sublist calls

namespace Called

variable {calls others : List Call}

theorem none (d : BlockDriver) (b : Bench) (calls : List Call) : Called d b calls b :=
  ⟨[], .done, List.nil_sublist calls⟩

theorem single (call : Call) {mishaps : List Mishap} {result : Except VolumeError Unit}
    (ends : call.Ends d b mishaps result c) : Called d b [call] c :=
  ⟨_, .single ends, List.Sublist.refl _⟩

theorem extend (called : Called d b calls c) (others : List Call) :
    Called d b (calls ++ others) c := by
  obtain ⟨attempts, course, sublist⟩ := called
  exact ⟨attempts, course, sublist.trans (List.sublist_append_left _ _)⟩

theorem trans (first : Called d b calls c) (next : Called d c others e) :
    Called d b (calls ++ others) e := by
  obtain ⟨attempts, course, sublist⟩ := first
  obtain ⟨later, rest, sublistThen⟩ := next
  refine ⟨attempts ++ later, course.append rest, ?_⟩
  rw [List.map_append]
  exact sublist.append sublistThen

theorem sound (called : Called d b calls c) (sound : b.Sound) : c.Sound := by
  obtain ⟨attempts, course, -⟩ := called
  exact course.sound sound

end Called

theorem Worked.sound {such : Volume → Prop} (worked : b.Worked d such c) (sound : b.Sound) :
    c.Sound := by
  obtain ⟨attempts, course, -, -⟩ := worked
  exact course.sound sound

def Touched (d : BlockDriver) (b c : Bench) : Prop := b.Worked d (fun _ => True) c

theorem Worked.touched {such : Volume → Prop} (worked : b.Worked d such c) : Touched d b c := by
  obtain ⟨attempts, course, -, settling⟩ := worked
  exact ⟨attempts, course, fun _ _ _ _ _ _ => trivial, settling⟩

theorem Touched.refl (d : BlockDriver) (b : Bench) : Touched d b b := .idle d b _

theorem Called.touched {still : List Call} {last : Option Call}
    (called : Called d b (still ++ last.toList) c)
    (calm : ∀ call ∈ still, call.remounts = false) : Touched d b c := by
  obtain ⟨attempts, course, sublist⟩ := called
  refine ⟨attempts, course, fun _ _ _ _ _ _ => trivial, ?_⟩
  obtain ⟨early, late, split, first, rest⟩ := List.sublist_append_iff.1 sublist
  obtain ⟨before, after, rfl, rfl, rfl⟩ := List.map_eq_append_iff.1 split
  have short : after.length ≤ 1 := by
    have within := rest.length_le
    rw [List.length_map] at within
    exact Nat.le_trans within (by cases last <;> simp)
  apply Settling.after
  · intro a member
    have made : a.call ∈ before.map (·.call) := List.mem_map.2 ⟨a, member, rfl⟩
    exact calm a.call (first.subset made)
  · cases after with
    | nil => exact .none
    | cons a later =>
      have none : later = [] :=
        List.length_eq_zero_iff.1 (Nat.le_zero.1 (Nat.le_of_succ_le_succ short))
      exact .last (by simp [none])

end Bench

theorem leads_called {α β : Type} {d : BlockDriver} {b : Bench} {operation : Operation α}
    {next : α → Operation β} {calls others : List Call}
    (first : operation.outcome.Leads b fun _ _ c => b.Called d calls c) (sound : b.Sound)
    (rest : ∀ value c, c.Sound → (next value).outcome.Leads c fun _ _ e => c.Called d others e) :
    (operation >>= next).outcome.Leads b fun _ _ c => b.Called d (calls ++ others) c := by
  apply leads_bind.2
  apply first.mono
  intro mishaps result c called
  cases result with
  | error error => exact called.extend others
  | ok value =>
    apply (rest value c (called.sound sound)).mono
    intro more result e later
    exact called.trans later

namespace BlockDriver.Created

open Bench (Persists)

variable {d : BlockDriver} {b c : Bench} {locator : Locator} {source : Option Source} {spec : Spec}
  {mishaps : List Mishap} {result : Except VolumeError VolumeId}

theorem ends (created : Created d b locator source spec mishaps result c) :
    (Call.create locator source spec).Ends d b mishaps (result.map fun _ => ()) c :=
  ⟨result, created, rfl⟩

theorem gains (created : Created d b locator source spec mishaps result c) :
    Bench.Gains locator b c := by
  cases created with
  | invalid => exact .none rfl
  | drawn valid made => exact made.gains.congr (by rfl) (by rfl)

theorem persists (created : Created d b locator source spec mishaps result c) : b.Persists c :=
  created.gains.persists

theorem absent {id : VolumeId} (created : Created d b locator source spec mishaps (.ok id) c) :
    b.records.get? id.text = none := by
  cases created with
  | drawn valid made =>
    obtain ⟨rfl, -, w, same, added⟩ := made.added
    rw [← same]
    exact added.absent

theorem found {id : VolumeId} (created : Created d b locator source spec mishaps (.ok id) c) :
    ∃ v, c.records.get? id.text = some v := by
  cases created with
  | drawn valid made =>
    obtain ⟨rfl, -, v, same, added⟩ := made.added
    exact ⟨v, same ▸ added.found⟩

theorem sound (sound : b.Sound) (created : Created d b locator source spec mishaps result c) :
    c.Sound :=
  (Bench.Sound.kept d).step sound.own sound created.ends

end BlockDriver.Created

end BlockVolumes
