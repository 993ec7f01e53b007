import BlockVolumes.Proofs.Driver.Call
import BlockVolumes.Proofs.Plugin.Requests
import BlockVolumes.Proofs.Wire.RoundTrip

/-! The volumes behind one name over whole runs of a server: they are mounted one after the other
and released the other way round, whatever is asked for and whatever goes wrong on the way. -/

namespace BlockVolumes

def Bench.host (b : Bench) : RecordingHost := ⟨b.formatted, b.mounts, false, false⟩

theorem Path.join_ne (base : String) {path : String} (given : path ≠ "") :
    Path.join base path ≠ "" := by
  unfold join
  split
  · exact given
  · split <;> simp [given]

namespace Plugin

structure Exchange where
  request : Request
  mishaps : List Mishap
  reply : Http.Reply

def Exchange.gain (e : Exchange) : Int :=
  match e.request with
  | .mount _ => if succeeded e.reply then 1 else 0
  | .unmount _ => if succeeded e.reply then -1 else 0
  | _ => 0

def balance : List Exchange → Int
  | [] => 0
  | exchange :: later => exchange.gain + balance later

/-- The worlds that requests to a server lead to, one after the other, when what is mounted and
unmounted goes by one name. -/
inductive Serves (s : Server) (name : String) (start : World) : List Exchange → World → Prop
  | start : Serves s name start [] start
  | request {history : List Exchange} {exchange : Exchange} {w v : World}
      (served : Serves s name start history w) (suits : exchange.request.GoesBy name)
      (yields : (exchange.request.work s).Yields w exchange.mishaps exchange.reply v) :
    Serves s name start (history ++ [exchange]) v

def Server.serveAll (s : Server) (w : World) : List (Request × Faults) → List Exchange × World
  | [] => ([], w)
  | (request, faults) :: rest =>
    let (mishaps, reply, v) := (request.work s).runUnder faults w
    let (later, last) := s.serveAll v rest
    (⟨request, mishaps, reply⟩ :: later, last)

theorem serves_serveAll {s : Server} {name : String} {start w : World} {history : List Exchange}
    {steps : List (Request × Faults)} (suits : ∀ step ∈ steps, step.1.GoesBy name)
    (served : Serves s name start history w) :
    Serves s name start (history ++ (s.serveAll w steps).1) (s.serveAll w steps).2 := by
  induction steps generalizing history w with
  | nil => simpa [Server.serveAll] using served
  | cons step rest ih =>
    obtain ⟨request, faults⟩ := step
    have yields := (request.work s).yields_runUnder faults w
    have next := @Serves.request s name start history ⟨request, _, _⟩ w _ served
      (suits _ List.mem_cons_self) yields
    simpa [Server.serveAll] using ih (fun later member => suits _ (.tail _ member)) next

theorem Serves.times {s : Server} {name : String} {start w : World} {history : List Exchange}
    (served : Serves s name start history w) : w.times = start.times := by
  induction served with
  | start => rfl
  | request _ _ yields ih => exact yields.clockKept.times.trans ih

namespace Family

variable {s : Server} {f : Family} {b c : Bench} {stack : List Volume}

/-- The family has its first volume and no other yet, nothing is mounted in its place, and the IDs
that will be drawn are new. -/
structure Ready (f : Family) (b : Bench) : Prop where
  own : b.OwnIds
  unused : b.NamesUnused
  fresh : ∀ n, b.drawn ≤ n → f.Fresh b (b.ids n)
  distinct : ∀ m n, b.drawn ≤ m → b.drawn ≤ n → b.ids m = b.ids n → m = n
  base : ∃ v, b.records.get? f.base.text = some v ∧ v.locator.name = f.name ∧ v.spec = f.spec ∧
    v.mountPath? = none
  others : ∀ id v, b.records.get? id = some v → id ≠ f.base.text → ∀ i < f.scale,
    v.locator.name ≠ f.member i ∧ id ≠ f.member i
  baseId : ∀ i < f.scale, 0 < i → f.base.text ≠ f.member i
  free : ∀ id v, b.records.get? id = some v → v.mountPath? ≠ some f.place
  bare : b.host.mountsAt f.place = []
  begins : f.since ≤ b.clock

theorem Ready.eq_base (ready : f.Ready b) {i : Nat} (known : i < f.scale) {id : String} {v : Volume}
    (found : b.records.get? id = some v) (goes : v.locator.name = f.member i) :
    id = f.base.text :=
  Classical.byContradiction fun different =>
    (ready.others id v found different i known).1 goes

theorem Ready.holds (ready : f.Ready b) : f.Holds b [] := by
  obtain ⟨u, base, name, spec, unmounted⟩ := ready.base
  constructor
  · refine ⟨ready.own, ready.unused, ready.fresh, ready.distinct, ⟨u, base, name, spec⟩, ?_, ?_⟩
    · intro i known id v other w found also goesV goesW
      exact (ready.eq_base known found goesV).trans (ready.eq_base known also goesW).symm
    · intro i known v found
      have same : f.member i = f.base.text := Classical.byContradiction fun different =>
        (ready.others _ v found different i known).2 rfl
      refine ⟨Nat.eq_zero_of_not_pos fun positive => ?_, same⟩
      exact ready.baseId i known positive same.symm
  · refine ⟨by simp, Nat.zero_le _, ?_, ready.begins, by simp, .nil, ready.bare⟩
    rintro id v found (here | ⟨⟨i, known, goes⟩, mounted⟩)
    · exact absurd here (ready.free id v found)
    · rw [ready.eq_base known found goes, base] at found
      cases found
      simp [Volume.isMounted, unmounted] at mounted

/-- What is mounted: the volumes of the first names, in their order, and nothing else. -/
structure Shows (f : Family) (b : Bench) (stack : List Volume) : Prop where
  short : stack.length ≤ f.scale
  single : ∀ i < f.scale, ∀ v ∈ b.records.values, ∀ w ∈ b.records.values,
    v.locator.name = f.member i → w.locator.name = f.member i → v = w
  members : ∀ i v, stack[i]? = some v → v ∈ b.records.values ∧ v.locator.name = f.member i ∧
    v.mountPath? = some f.place
  mounted : ∀ i < f.scale,
    (∃ v ∈ b.records.values, v.locator.name = f.member i ∧ v.isMounted = true) ↔ i < stack.length
  mounts : b.host.mountsAt f.place = stack.map (·.device)

theorem Holds.shows (holds : f.Holds b stack) : f.Shows b stack := by
  have kept : ∀ {v}, v ∈ b.records.values → b.records.get? v.id.text = some v := by
    intro v member
    obtain ⟨id, found⟩ := Table.mem_values.1 member
    rwa [holds.settled.own id v found]
  constructor
  · exact holds.stacked.short
  · intro i known v memberV w memberW goesV goesW
    have same := holds.settled.alone i known _ v _ w (kept memberV) (kept memberW) goesV goesW
    have found := kept memberV
    rw [same, kept memberW] at found
    exact (Option.some.inj found).symm
  · intro i v there
    obtain ⟨found, rest⟩ := holds.stacked.each i v there
    exact ⟨Table.mem_values.2 ⟨_, found⟩, rest⟩
  · intro i known
    constructor
    · rintro ⟨v, member, goes, mounted⟩
      have found := kept member
      obtain ⟨j, there⟩ := List.mem_iff_getElem?.1
        (holds.stacked.only _ v found (.inr ⟨⟨i, known, goes⟩, mounted⟩))
      obtain rfl := member_inj (goes.symm.trans (holds.stacked.each j v there).2.1)
      exact (List.getElem?_eq_some_iff.1 there).1
    · intro taken
      obtain ⟨found, goes, mounted⟩ :=
        holds.stacked.each i _ (List.getElem?_eq_getElem taken)
      exact ⟨_, Table.mem_values.2 ⟨_, found⟩, goes, by simp [Volume.isMounted, mounted]⟩
  · exact holds.stacked.mounts

def Does (f : Family) (b : Bench) (stack : List Volume) :
    Request → List Mishap → Http.Reply → Bench → List Volume → Prop
  | .mount _, mishaps, reply, c, left =>
    if stack.length < f.scale then
      (mishaps = [] → reply = send PathReply.shape ⟨f.place, ""⟩ ∧ ∃ v, left = stack ++ [v]) ∧
      (mishaps ≠ [] → succeeded reply = false ∧ left = stack)
    else reply = failure f.limit.message ∧ c = b ∧ left = stack
  | .unmount _, _, reply, c, left =>
    if stack = [] then succeeded reply = false ∧ c = b ∧ left = []
    else reply = success ∧ left = stack.dropLast
  | .path body, _, reply, c, left => c = b ∧ left = stack ∧
    ∀ request, VolumeRequest.shape.decode body = .ok request →
      Server.nameOf request.name = f.name →
      reply = if stack = [] then failure "volume not mounted"
        else send PathReply.shape ⟨dataPath f.place, ""⟩
  | _, _, _, c, left => c = b ∧ left = stack

theorem Answered.does {request : Request} {mishaps : List Mishap} {reply : Http.Reply}
    {left : List Volume} (answered : f.Answered b stack request mishaps reply c left) :
    f.Does b stack request mishaps reply c left := by
  cases answered with
  | mounted room => simp [Does, room]
  | full whole => simp [Does, whole]
  | unlucky unlucky room => simp [Does, room, unlucky, succeeded_failure]
  | unmounted whole => simp [Does, whole]
  | bare none => simp [Does, none, succeeded_failure]
  | path told => exact ⟨rfl, rfl, told⟩
  | get | list => exact ⟨rfl, rfl⟩

theorem Answered.holds {request : Request} {mishaps : List Mishap} {reply : Http.Reply}
    {left : List Volume} (answered : f.Answered b stack request mishaps reply c left)
    (holds : f.Holds b stack) : f.Holds c left := by
  cases answered with
  | mounted _ after | unlucky _ _ after | unmounted _ after => exact after
  | full | bare | path | get | list => exact holds

theorem Answered.gain {request : Request} {mishaps : List Mishap} {reply : Http.Reply}
    {left : List Volume} (answered : f.Answered b stack request mishaps reply c left) :
    (stack.length : Int) + Exchange.gain ⟨request, mishaps, reply⟩ = left.length := by
  cases answered with
  | mounted => simp [Exchange.gain, succeeded_path]
  | full | unlucky => simp [Exchange.gain, succeeded_failure]
  | unmounted whole =>
    simp only [Exchange.gain, succeeded_success, whole, if_true, List.length_append,
      List.length_singleton]
    omega
  | bare none => simp [Exchange.gain, succeeded_failure, none]
  | path | get | list => simp [Exchange.gain]

theorem balance_append (history : List Exchange) (e : Exchange) :
    balance (history ++ [e]) = balance history + e.gain := by
  induction history with
  | nil => simp [balance]
  | cons first later ih =>
    rw [List.cons_append, balance, balance, ih]
    omega

theorem holds_of_serves {m : Moment} {history : List Exchange} {w : World} (keeps : s.Keeps f)
    (proper : f.Proper) (ready : f.Ready b) (served : Serves s f.name (b.world m) history w)
    (forward : 1 < f.scale → Time.Forward w.times f.since w.clock) :
    ∃ c later stack, w = c.world later ∧ f.Holds c stack ∧
      balance history = (stack.length : Int) := by
  induction served with
  | start => exact ⟨b, m, [], rfl, ready.holds, rfl⟩
  | @request history exchange w v served suits yields ih =>
    have kept := yields.clockKept
    have before (many : 1 < f.scale) : Time.Forward w.times f.since w.clock :=
      (kept.times ▸ forward many).mono kept.clock
    obtain ⟨c, later, stack, rfl, holds, count⟩ := ih before
    obtain ⟨e, after, rfl, left, answered⟩ :=
      (leads_work keeps holds proper before suits).sound yields
    refine ⟨e, after, left, rfl, answered.holds holds, ?_⟩
    rw [balance_append, count]
    exact answered.gain

def twoOfData : Family :=
  ⟨⟨"nbd", "/volumes"⟩, "/mnt/data", "data", ⟨"first"⟩, ⟨4096, .ext4, 2, .empty⟩, 0⟩

def firstOfData : Volume :=
  .fresh ⟨"first"⟩ (.named "data") none twoOfData.spec .epoch

def dataServer : Server :=
  ⟨⟨Table.empty.insert "nbd" twoOfData.driver.toVolumeDriver⟩, "nbd", "/mnt"⟩

def dataBench : Bench := .ofRecords (Table.empty.insert "first" firstOfData)

def benchOf (base : VolumeId) (times : Nat → Time) : Bench :=
  { Bench.ofRecords (Table.empty.insert base.text { firstOfData with id := base }) with times }

theorem ready_of_base {base : VolumeId} (other : base.text.toList.head? ≠ some 'v')
    (noReplica : base.text ≠ "data_1") (times : Nat → Time) :
    { twoOfData with base }.Ready (benchOf base times) := by
  have found : ∀ id v, (benchOf base times).records.get? id = some v →
      id = base.text ∧ v = { firstOfData with id := base } := by
    intro id v found
    rcases Table.get?_insert_eq_some.1 found with ⟨rfl, rfl⟩ | ⟨-, none⟩
    · exact ⟨rfl, rfl⟩
    · cases none
  have starts : ∀ n, ((benchOf base times).ids n).text.toList =
      'v' :: ("olume".toList ++ Nat.toDigits 10 n) :=
    fun n => by simp [benchOf, Bench.ofRecords]
  have apart : ∀ n name, name.toList.head? ≠ some 'v' →
      ((benchOf base times).ids n).text ≠ name := by
    rintro n name different rfl
    simp [starts] at different
  have members : ∀ i < twoOfData.scale, (twoOfData.member i).toList.head? ≠ some 'v' := by
    decide
  constructor
  · intro id v there
    obtain ⟨rfl, rfl⟩ := found id v there
    rfl
  · exact ⟨fun _ _ => rfl, fun _ _ => rfl⟩
  · intro n _
    have named : Path.IsName ((benchOf base times).ids n).text.toList :=
      Bench.isName_ofRecords .empty n
    refine ⟨named, ?_, rfl, ?_, fun i known => apart n _ (members i known)⟩
    · apply Option.eq_none_iff_forall_ne_some.2
      intro v there
      exact apart n base.text other (found _ v there).1
    · have place : Path.trail twoOfData.place = ["mnt".toList, "data".toList] := by decide
      have root : Path.trail twoOfData.driver.root = ["volumes".toList] := by decide
      have way : Path.trail (twoOfData.driver.backingFile ((benchOf base times).ids n)) = _ :=
        Path.trail_join named
      intro inside
      rw [way, place, root, List.singleton_append, List.cons_prefix_cons] at inside
      exact absurd inside.1 (by decide)
  · intro m n _ _ same
    have texts : 'v' :: ("olume".toList ++ Nat.toDigits 10 m) =
        'v' :: ("olume".toList ++ Nat.toDigits 10 n) := by
      rw [← starts, ← starts, same]
    have digits : Nat.toDigits 10 m = Nat.toDigits 10 n :=
      List.append_cancel_left (List.cons.inj texts).2
    simpa using congrArg (Nat.ofDigitChars 10 · 0) digits
  · exact ⟨{ firstOfData with id := base }, Table.get?_insert_self .., rfl, rfl, rfl⟩
  · intro id v there different
    exact absurd (found id v there).1 different
  · intro i known positive
    replace known : i < twoOfData.scale := known
    have two : twoOfData.scale = 2 := rfl
    obtain rfl : i = 1 := by omega
    exact noReplica
  · intro id v there
    obtain ⟨rfl, rfl⟩ := found id v there
    intro mounted
    cases mounted
  · rfl
  · exact Nat.zero_le _

theorem ready_data : twoOfData.Ready dataBench :=
  ready_of_base (by decide) (by decide) Time.ofTicks

def mountData : Request := .mount (MountRequest.shape.toJson ⟨"data", "client"⟩).bytes

def unmountData : Request := .unmount (MountRequest.shape.toJson ⟨"data", "client"⟩).bytes

theorem mountData_goesBy : mountData.GoesBy twoOfData.name :=
  ⟨_, Shape.decode_bytes MountRequest.shape_faithful ⟨"data", "client"⟩, by decide⟩

theorem unmountData_goesBy : unmountData.GoesBy twoOfData.name := mountData_goesBy

/-- Scaling up and down. With `k` successful mounts more than unmounts, the volumes of the first `k`
names are mounted, and the host has their devices in that order in the place. A mount takes the
next one, an unmount releases the last one. -/
theorem scales_in_order {m : Moment} {history : List Exchange} {w : World} (keeps : s.Keeps f)
    (given : f.name ≠ "") (valid : f.spec.check = .ok ())
    (small : f.spec.size.toNat < Files.lengthLimit) (ready : f.Ready b)
    (served : Serves s f.name (b.world m) history w)
    (forward : 1 < f.scale → Time.Forward w.times f.since w.clock) :
    ∃ c later stack, w = c.world later ∧ balance history = (stack.length : Int) ∧
      f.Shows c stack ∧ ∀ request mishaps reply v, request.GoesBy f.name →
        (request.work s).Yields w mishaps reply v →
        ∃ e after left, v = e.world after ∧ f.Shows e left ∧
          f.Does c stack request mishaps reply e left := by
  have placed : f.place ≠ "" := keeps.place ▸ Path.join_ne s.mountBase given
  have proper : f.Proper := ⟨given, placed, valid, small⟩
  obtain ⟨c, later, stack, rfl, holds, count⟩ := holds_of_serves keeps proper ready served forward
  refine ⟨c, later, stack, rfl, count, holds.shows, ?_⟩
  intro request mishaps reply v suits yields
  obtain ⟨e, after, rfl, left, answered⟩ :=
    (leads_work keeps holds proper forward suits).sound yields
  exact ⟨e, after, left, rfl, (answered.holds holds).shows, answered.does⟩

/-- The first volume is mounted, the next cannot be connected, then it can, and is released
again. -/
def upAndDown : List (Request × Faults) :=
  [(mountData, .none), (mountData, { Faults.none with connect := true }), (mountData, .none),
    (unmountData, .none)]

theorem upAndDown_goesBy : ∀ step ∈ upAndDown, step.1.GoesBy twoOfData.name := by
  simp [upAndDown, mountData_goesBy, unmountData_goesBy]

theorem keeps_data : dataServer.Keeps twoOfData := by
  refine ⟨?_, rfl⟩
  simp [dataServer, DriverRegistry.get]

def servedData : List Exchange × World :=
  dataServer.serveAll (dataBench.world .calm) upAndDown

theorem serves_servedData : Serves dataServer twoOfData.name (dataBench.world .calm) servedData.1
    servedData.2 :=
  serves_serveAll upAndDown_goesBy .start

theorem forward_servedData : Time.Forward servedData.2.times 0 servedData.2.clock := by
  have each : ∀ second < 8, ∀ first < second,
      (Time.ofTicks first).Before (Time.ofTicks second) := by decide +kernel
  have early : servedData.2.clock ≤ 8 := by decide +kernel
  rw [serves_servedData.times]
  simp only [Bench.world, dataBench, Bench.ofRecords]
  exact fun first second _ less past => each second (Nat.lt_of_lt_of_le past early) first less

theorem scales_in_order_of_data :
    servedData.1.map (·.mishaps) = [[], [.connect "/volumes/volume0"], [], []] ∧
    Time.Forward servedData.2.times twoOfData.since servedData.2.clock ∧
    ∃ c later stack mishaps e after left, servedData.2 = c.world later ∧
      balance servedData.1 = (stack.length : Int) ∧ stack.length = 1 ∧ twoOfData.Shows c stack ∧
      ((mountData.work dataServer).run servedData.2).2 = e.world after ∧ twoOfData.Shows e left ∧
      twoOfData.Does c stack mountData mishaps ((mountData.work dataServer).run servedData.2).1 e
        left := by
  have count : balance servedData.1 = 1 := by decide +kernel
  obtain ⟨c, later, stack, same, balanced, shows, next⟩ := scales_in_order keeps_data (by decide)
    rfl (by decide) ready_data serves_servedData fun _ => forward_servedData
  obtain ⟨mishaps, yields⟩ := (mountData.work dataServer).yields_run servedData.2
  obtain ⟨e, after, left, mounted, showsThen, does⟩ := next _ _ _ _ mountData_goesBy yields
  refine ⟨by decide +kernel, forward_servedData, c, later, stack, mishaps, e, after, left, same,
    balanced, ?_, shows, mounted, showsThen, does⟩
  omega

/-- A clock that is set back before every reading. -/
def backwards (reading : Nat) : Time := .ofTicks (100 - reading)

def standing (_ : Nat) : Time := .epoch

def lateOfData : Family := { twoOfData with base := ⟨"zulu"⟩ }

def twiceUpOnceDown : List (Request × Faults) :=
  [(mountData, .none), (mountData, .none), (unmountData, .none)]

/-- Under this clock requests lead from a family that is ready to one whose mounted volumes are not
those of the first names. -/
def Disordered (times : Nat → Time) : Prop :=
  dataServer.Keeps lateOfData ∧ lateOfData.Ready (benchOf lateOfData.base times) ∧ ∃ history w,
    Serves dataServer lateOfData.name ((benchOf lateOfData.base times).world .calm) history w ∧
    ¬ ∃ c later stack, w = c.world later ∧ balance history = (stack.length : Int) ∧
      lateOfData.Shows c stack

theorem disordered_of_served {times : Nat → Time} {served : List Exchange × World}
    (here : dataServer.serveAll ((benchOf lateOfData.base times).world .calm) twiceUpOnceDown =
      served)
    (count : balance served.1 = 1) (released : (served.2.record? "zulu").map
      (fun v => (v.locator.name, v.isMounted)) = some ("data", false)) : Disordered times := by
  refine ⟨⟨by simp [lateOfData, dataServer, DriverRegistry.get], rfl⟩,
    ready_of_base (by decide) (by decide) times, served.1, served.2, ?_, ?_⟩
  · have suits : ∀ step ∈ twiceUpOnceDown, step.1.GoesBy lateOfData.name := by
      simp [twiceUpOnceDown, lateOfData, mountData_goesBy, unmountData_goesBy]
    rw [← here]
    exact serves_serveAll suits .start
  · rintro ⟨c, later, stack, same, balanced, shows⟩
    obtain ⟨u, found, goes, free⟩ : ∃ u, c.records.get? "zulu" = some u ∧
        u.locator.name = "data" ∧ u.isMounted = false := by
      simpa [same] using released
    have one : 0 < stack.length := by omega
    obtain ⟨v, member, name, mounted⟩ := (shows.mounted 0 (by decide)).2 one
    have alone := shows.single 0 (by decide) u (Table.mem_values.2 ⟨_, found⟩) v member goes name
    rw [alone, mounted] at free
    cases free

/-- A clock that steps back, or only stands still, has the wrong volume released. -/
theorem scales_out_of_order : Disordered backwards ∧ Disordered standing :=
  ⟨disordered_of_served rfl (by decide +kernel) (by decide +kernel),
    disordered_of_served rfl (by decide +kernel) (by decide +kernel)⟩

end Family

end Plugin

end BlockVolumes
