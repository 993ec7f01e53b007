import BlockVolumes.Proofs.Device.Kernel

/-!
Many links to files, all of them connected by one connector, while others use the devices of the
kernel too. Nobody else takes a device away from whoever uses it; apart from that devices come and
go, and the tool fails as it likes.
-/

namespace BlockVolumes.KernelConnector

variable {c : KernelConnector} {device other file : String} {i j : Nat}

structure Use where
  link : Nat
  arguments : List String
  worked : Bool
deriving DecidableEq

namespace Use

def Connects (u : Use) (device : String) : Prop :=
  u.worked = true ∧ ∃ file, u.arguments = toConnect device file

def Disconnects (u : Use) (device : String) : Prop :=
  u.worked = true ∧ u.arguments = toDisconnect device

end Use

variable {u : Use} {uses before after : List Use}

def lastWorked (uses : List Use) (link : Nat) : Option Use :=
  (uses.filter fun u => u.link = link ∧ u.worked = true).getLast?

/-- By what was done last for it, and worked, the link has the device. -/
def Took (uses : List Use) (link : Nat) (device : String) : Prop :=
  ∃ u, lastWorked uses link = some u ∧ u.Connects device

/-- The device was connected, for whichever link, and not disconnected since. -/
inductive InUse (device : String) : List Use → Prop
  | taken {uses : List Use} {u : Use} (connects : u.Connects device) : InUse device (uses ++ [u])
  | still {uses : List Use} {u : Use} (before : InUse device uses)
    (left : ¬ u.Disconnects device) : InUse device (uses ++ [u])

theorem lastWorked_append (uses : List Use) (u : Use) (link : Nat) : lastWorked (uses ++ [u]) link =
    if u.link = link ∧ u.worked = true then some u else lastWorked uses link := by
  by_cases own : u.link = link ∧ u.worked = true
  · simp [lastWorked, List.filter_append, own]
  · simp [lastWorked, List.filter_append, own]

theorem took_append_of_idle (idle : ¬ (u.link = i ∧ u.worked = true)) :
    Took (uses ++ [u]) i device ↔ Took uses i device := by
  rw [Took, Took, lastWorked_append, if_neg idle]

theorem took_append_self (worked : u.worked = true) :
    Took (uses ++ [u]) u.link device ↔ u.Connects device := by
  rw [Took, lastWorked_append, if_pos ⟨rfl, worked⟩]
  constructor
  · rintro ⟨v, same, connects⟩
    rwa [Option.some.inj same]
  · exact fun connects => ⟨u, rfl, connects⟩

theorem Took.mem (took : Took uses i device) : ∃ u ∈ uses, u.link = i ∧ u.Connects device := by
  obtain ⟨u, last, connects⟩ := took
  obtain ⟨there, own⟩ := List.mem_filter.1 (List.mem_of_getLast? last)
  exact ⟨u, there, (of_decide_eq_true own).1, connects⟩

/-- Links by their numbers, and what the tool was used for so far. -/
structure Rack where
  connector : KernelConnector
  links : List Link
  uses : List Use

inductive Request
  | create (file : String)
  | connect (link : Nat)
  | disconnect (link : Nat)

def Request.link? : Request → Option Nat
  | create _ => none
  | connect link => some link
  | disconnect link => some link

namespace Rack

structure Outcome where
  done : Bool
  links : List Link
  uses : List Use
  connector : KernelConnector

/-- A call for one of the links. The link is as the call leaves it, also if it fails. -/
def attempt {α : Type} (r : Rack) (i : Nat)
    (call : Link → (Except DeviceError α × Link) × KernelConnector) : Outcome :=
  match r.links[i]? with
  | none => ⟨false, r.links, [], r.connector⟩
  | some l =>
    let ((result, after), c) := call l
    let made := c.calls.drop r.connector.calls.length
    ⟨result.isOk, r.links.set i after, made.map fun run => ⟨i, run, result.isOk⟩, c⟩

def outcome (r : Rack) : Request → Outcome
  | .create file => ⟨true, r.links ++ [.toFile file], [], r.connector⟩
  | .connect i => r.attempt i r.connector.connect
  | .disconnect i => r.attempt i r.connector.disconnect

structure Surroundings where
  present : List String
  busy : List String
  tool : Tool

def amid (c : KernelConnector) (s : Surroundings) : KernelConnector :=
  { c with present := s.present, busy := s.busy, tool := s.tool }

def next (r : Rack) (request : Request) (s : Surroundings) : Rack :=
  ⟨amid (r.outcome request).connector s, (r.outcome request).links,
    r.uses ++ (r.outcome request).uses⟩

/-- A device is busy once it is connected. One that the connector has in use, or that belongs to
somebody who keeps it, stays busy unless this request disconnects it. -/
structure Settles (kept : String → Prop) (r : Rack) (request : Request) (s : Surroundings) :
    Prop where
  taken : ∀ u ∈ (r.outcome request).uses, ∀ device, u.Connects device →
    (amid (r.outcome request).connector s).Busy device
  stays : ∀ device, InUse device r.uses ∨ kept device → r.connector.Busy device →
    (∀ u ∈ (r.outcome request).uses, ¬ u.Disconnects device) →
    (amid (r.outcome request).connector s).Busy device

inductive Reaches (kept : String → Prop) (c : KernelConnector) : Rack → Prop
  | start : Reaches kept c ⟨c, [], []⟩
  | next {r : Rack} (reached : Reaches kept c r) (request : Request) (s : Surroundings)
    (settles : Settles kept r request s) : Reaches kept c (r.next request s)

inductive Did (r : Rack) : Request → Outcome → Prop
  | created {file : String} :
    Did r (.create file) ⟨true, r.links ++ [.toFile file], [], r.connector⟩
  | idle {request : Request} {done : Bool} : Did r request ⟨done, r.links, [], r.connector⟩
  | unconnected {i : Nat} {l : Link} {device : String} (there : r.links[i]? = some l)
    (bare : l.device = none) (free : r.connector.Free device) :
    Did r (.connect i) ⟨false, r.links, [⟨i, toConnect device l.file, false⟩],
      r.connector.called (toConnect device l.file)⟩
  | connected {i : Nat} {l : Link} {device : String} (there : r.links[i]? = some l)
    (bare : l.device = none) (free : r.connector.Free device) :
    Did r (.connect i) ⟨true, r.links.set i { l with device := some device },
      [⟨i, toConnect device l.file, true⟩], r.connector.called (toConnect device l.file)⟩
  | stuck {i : Nat} {l : Link} {device : String} (there : r.links[i]? = some l)
    (held : l.device = some device) :
    Did r (.disconnect i) ⟨false, r.links, [⟨i, toDisconnect device, false⟩],
      r.connector.called (toDisconnect device)⟩
  | disconnected {i : Nat} {l : Link} {device : String} (there : r.links[i]? = some l)
    (held : l.device = some device) :
    Did r (.disconnect i) ⟨true, r.links.set i { l with device := none },
      [⟨i, toDisconnect device, true⟩], r.connector.called (toDisconnect device)⟩

theorem drop_called (c : KernelConnector) (arguments : List String) :
    (c.called arguments).calls.drop c.calls.length = [arguments] :=
  List.drop_left

theorem set_same {r : Rack} {l : Link} (there : r.links[i]? = some l) :
    r.links.set i l = r.links := by
  obtain ⟨bound, rfl⟩ := List.getElem?_eq_some_iff.1 there
  exact List.set_getElem_self bound

theorem did_connect (r : Rack) (i : Nat) : Did r (.connect i) (r.outcome (.connect i)) := by
  cases there : r.links[i]? with
  | none =>
    simp only [outcome, attempt, there]
    exact .idle
  | some l =>
    have call := connecting r.connector l
    generalize result : r.connector.connect l = answer at call
    cases call with
    | holds | idle =>
      simp only [outcome, attempt, there, result, set_same there, List.drop_length, List.map_nil]
      exact .idle
    | refused bare free =>
      simp only [outcome, attempt, there, result, set_same there, drop_called, List.map_singleton]
      exact .unconnected there bare free
    | taken bare free =>
      simp only [outcome, attempt, there, result, drop_called, List.map_singleton]
      exact .connected there bare free

theorem did_disconnect (r : Rack) (i : Nat) :
    Did r (.disconnect i) (r.outcome (.disconnect i)) := by
  cases there : r.links[i]? with
  | none =>
    simp only [outcome, attempt, there]
    exact .idle
  | some l =>
    have call := disconnecting r.connector l
    generalize result : r.connector.disconnect l = answer at call
    cases call with
    | idle =>
      simp only [outcome, attempt, there, result, set_same there, List.drop_length, List.map_nil]
      exact .idle
    | refused held =>
      simp only [outcome, attempt, there, result, set_same there, drop_called, List.map_singleton]
      exact .stuck there held
    | freed held =>
      simp only [outcome, attempt, there, result, drop_called, List.map_singleton]
      exact .disconnected there held

theorem did (r : Rack) (request : Request) : Did r request (r.outcome request) := by
  cases request with
  | create file => exact .created
  | connect i => exact did_connect r i
  | disconnect i => exact did_disconnect r i

/-- Each use is to connect a link that has no device, or to disconnect the device that a link
has. -/
inductive Orderly : List Use → Prop
  | nil : Orderly []
  | connect {uses : List Use} {u : Use} {device file : String} (before : Orderly uses)
    (arguments : u.arguments = toConnect device file) (bare : ∀ other, ¬ Took uses u.link other) :
    Orderly (uses ++ [u])
  | disconnect {uses : List Use} {u : Use} {device : String} (before : Orderly uses)
    (arguments : u.arguments = toDisconnect device) (took : Took uses u.link device) :
    Orderly (uses ++ [u])

structure Traced (c : KernelConnector) (r : Rack) : Prop where
  told : r.connector.calls = c.calls ++ r.uses.map (·.arguments)
  numbered : ∀ u ∈ r.uses, u.link < r.links.length
  held : ∀ (i : Nat) (l : Link), r.links[i]? = some l →
    ∀ device, l.device = some device ↔ Took r.uses i device
  orderly : Orderly r.uses

inductive Adds (r : Rack) : List Use → Prop
  | none : Adds r []
  | connect {u : Use} {device file : String} (arguments : u.arguments = toConnect device file)
    (bare : ∀ other, ¬ Took r.uses u.link other) (free : r.connector.Free device) : Adds r [u]
  | disconnect {u : Use} {device : String} (arguments : u.arguments = toDisconnect device)
    (took : Took r.uses u.link device) : Adds r [u]

variable {r : Rack} {request : Request} {s : Surroundings} {made : Outcome} {kept : String → Prop}

theorem Traced.bare (traced : Traced c r) {l : Link} (there : r.links[i]? = some l)
    (bare : l.device = none) (other : String) : ¬ Took r.uses i other := by
  intro took
  have held := (traced.held i l there other).2 took
  rw [bare] at held
  cases held

theorem Traced.adds (traced : Traced c r) (did : Did r request made) : Adds r made.uses := by
  cases did with
  | created | idle => exact .none
  | unconnected there bare free | connected there bare free =>
    exact .connect rfl (traced.bare there bare) free
  | stuck there held | disconnected there held =>
    exact .disconnect rfl ((traced.held _ _ there _).1 held)

theorem Adds.orderly {fresh : List Use} (adds : Adds r fresh) (orderly : Orderly r.uses) :
    Orderly (r.uses ++ fresh) := by
  cases adds with
  | none => rwa [List.append_nil]
  | connect arguments bare free => exact .connect orderly arguments bare
  | disconnect arguments took => exact .disconnect orderly arguments took

theorem Did.told (did : Did r request made) :
    made.connector.calls = r.connector.calls ++ made.uses.map (·.arguments) := by
  cases did with
  | created | idle => exact (List.append_nil _).symm
  | unconnected | connected | stuck | disconnected => rfl

theorem Did.numbered (did : Did r request made) (numbered : ∀ u ∈ r.uses, u.link < r.links.length) :
    ∀ u ∈ r.uses ++ made.uses, u.link < made.links.length := by
  intro u inside
  cases List.mem_append.1 inside with
  | inl old =>
    have bound := numbered u old
    cases did with
    | created =>
      rw [List.length_append]
      omega
    | idle | unconnected | stuck => exact bound
    | connected | disconnected => rwa [List.length_set]
  | inr new =>
    cases did with
    | created | idle => cases new
    | unconnected there | stuck there =>
      obtain rfl := List.mem_singleton.1 new
      exact (List.getElem?_eq_some_iff.1 there).1
    | connected there | disconnected there =>
      obtain rfl := List.mem_singleton.1 new
      rw [List.length_set]
      exact (List.getElem?_eq_some_iff.1 there).1

theorem Traced.held_set (traced : Traced c r) {u : Use} {l : Link} (worked : u.worked = true)
    (own : ∀ device, l.device = some device ↔ u.Connects device) :
    ∀ j m, (r.links.set u.link l)[j]? = some m → ∀ device,
      m.device = some device ↔ Took (r.uses ++ [u]) j device := by
  intro j m there device
  rw [List.getElem?_set] at there
  by_cases same : u.link = j
  · subst same
    rw [if_pos rfl, Option.ite_none_right_eq_some] at there
    obtain rfl := Option.some.inj there.2
    rw [took_append_self worked, own]
  · rw [if_neg same] at there
    rw [took_append_of_idle fun both => same both.1]
    exact traced.held j m there device

theorem Did.held (did : Did r request made) (traced : Traced c r) :
    ∀ j m, made.links[j]? = some m → ∀ device,
      m.device = some device ↔ Took (r.uses ++ made.uses) j device := by
  intro j m there device
  cases did with
  | created =>
    rw [List.append_nil]
    rw [List.getElem?_append] at there
    split at there
    · exact traced.held j m there device
    · rename_i beyond
      obtain ⟨-, rfl⟩ := List.getElem?_eq_some_iff.1 there
      have bare : ¬ Took r.uses j device := by
        intro took
        obtain ⟨u, inside, rfl, -⟩ := took.mem
        exact beyond (traced.numbered u inside)
      simp [Link.toFile, bare]
  | idle =>
    rw [List.append_nil]
    exact traced.held j m there device
  | unconnected | stuck =>
    rw [took_append_of_idle (by simp)]
    exact traced.held j m there device
  | @connected i l taken =>
    refine traced.held_set rfl ?_ j m there device
    intro other
    constructor
    · intro same
      obtain rfl := Option.some.inj same
      exact ⟨rfl, l.file, rfl⟩
    · rintro ⟨-, file, same⟩
      exact congrArg some (toConnect_inj same)
  | disconnected =>
    refine traced.held_set rfl ?_ j m there device
    intro other
    constructor
    · exact nofun
    · rintro ⟨-, file, same⟩
      exact absurd same.symm toConnect_ne_toDisconnect

theorem Traced.next (traced : Traced c r) (request : Request) (s : Surroundings) :
    Traced c (r.next request s) := by
  have did := r.did request
  constructor
  · calc
      (r.outcome request).connector.calls =
          r.connector.calls ++ (r.outcome request).uses.map (·.arguments) := did.told
      _ = c.calls ++ (r.uses ++ (r.outcome request).uses).map (·.arguments) := by
        rw [traced.told, List.append_assoc, List.map_append]
  · exact did.numbered traced.numbered
  · exact did.held traced
  · exact (traced.adds did).orderly traced.orderly

theorem Reaches.traced (reached : Reaches kept c r) : Traced c r := by
  induction reached with
  | start => exact ⟨(List.append_nil _).symm, nofun, nofun, .nil⟩
  | next _ request s _ ih => exact ih.next request s

/-- No two links have one device. The devices that links have are busy and so are those that are
kept, which no link ever had. -/
structure Separate (kept : String → Prop) (r : Rack) : Prop where
  inUse : ∀ i device, Took r.uses i device → InUse device r.uses
  busy : ∀ i device, Took r.uses i device → r.connector.Busy device
  alone : ∀ i j device, Took r.uses i device → Took r.uses j device → i = j
  steady : ∀ device, kept device → r.connector.Busy device
  spared : ∀ device, kept device → ∀ u ∈ r.uses,
    u.arguments ≠ toDisconnect device ∧ ∀ file, u.arguments ≠ toConnect device file

theorem Separate.not_took (separate : Separate kept r) (keeps : kept device) (i : Nat) :
    ¬ Took r.uses i device := by
  intro took
  obtain ⟨u, inside, -, -, file, arguments⟩ := took.mem
  exact (separate.spared device keeps u inside).2 file arguments

theorem Adds.free {u : Use} (adds : Adds r [u]) (connects : u.Connects device) :
    r.connector.Free device := by
  obtain ⟨-, file, taken⟩ := connects
  cases adds with
  | connect arguments bare free =>
    rwa [toConnect_inj (arguments.symm.trans taken)] at free
  | disconnect arguments took =>
    exact absurd (taken.symm.trans arguments) toConnect_ne_toDisconnect

theorem Adds.took (separate : Separate kept r) {u : Use} (adds : Adds r [u])
    (took : Took (r.uses ++ [u]) i device) :
    u.link = i ∧ u.Connects device ∨ Took r.uses i device ∧ ¬ u.Disconnects device := by
  by_cases own : u.link = i ∧ u.worked = true
  · obtain ⟨rfl, worked⟩ := own
    exact .inl ⟨rfl, (took_append_self worked).1 took⟩
  · have before := (took_append_of_idle own).1 took
    refine .inr ⟨before, ?_⟩
    rintro ⟨worked, freed⟩
    cases adds with
    | connect arguments => exact toConnect_ne_toDisconnect (arguments.symm.trans freed)
    | disconnect arguments mine =>
      rw [toDisconnect_inj (arguments.symm.trans freed)] at mine
      exact own ⟨separate.alone _ _ _ mine before, worked⟩

theorem Adds.spared (separate : Separate kept r) {fresh : List Use} (adds : Adds r fresh)
    (keeps : kept device) {u : Use} (new : u ∈ fresh) :
    u.arguments ≠ toDisconnect device ∧ ∀ file, u.arguments ≠ toConnect device file := by
  cases adds with
  | none => cases new
  | connect arguments bare free =>
    obtain rfl := List.mem_singleton.1 new
    constructor
    · exact fun same => toConnect_ne_toDisconnect (arguments.symm.trans same)
    · intro file same
      rw [toConnect_inj (arguments.symm.trans same)] at free
      exact free.not_busy (separate.steady device keeps)
  | disconnect arguments took =>
    obtain rfl := List.mem_singleton.1 new
    constructor
    · intro same
      rw [toDisconnect_inj (arguments.symm.trans same)] at took
      exact separate.not_took keeps _ took
    · exact fun file same => toConnect_ne_toDisconnect (same.symm.trans arguments)

theorem Separate.used (separate : Separate kept r) {u : Use} (adds : Adds r [u])
    {now : KernelConnector} (links : List Link)
    (taken : ∀ device, u.Connects device → now.Busy device)
    (stays : ∀ device, InUse device r.uses ∨ kept device → r.connector.Busy device →
      ¬ u.Disconnects device → now.Busy device) :
    Separate kept ⟨now, links, r.uses ++ [u]⟩ := by
  constructor
  · intro i device took
    cases adds.took separate took with
    | inl new => exact .taken new.2
    | inr old => exact .still (separate.inUse i device old.1) old.2
  · intro i device took
    cases adds.took separate took with
    | inl new => exact taken device new.2
    | inr old =>
      have busy := separate.busy i device old.1
      exact stays device (.inl (separate.inUse i device old.1)) busy old.2
  · intro i j device took also
    -- a device that is new to one link was free, so no other link had it
    cases adds.took separate took with
    | inl new =>
      cases adds.took separate also with
      | inl same => exact new.1.symm.trans same.1
      | inr old => exact absurd (separate.busy j device old.1) (adds.free new.2).not_busy
    | inr old =>
      cases adds.took separate also with
      | inl new => exact absurd (separate.busy i device old.1) (adds.free new.2).not_busy
      | inr other => exact separate.alone i j device old.1 other.1
  · intro device keeps
    have spared := adds.spared separate keeps List.mem_cons_self
    exact stays device (.inr keeps) (separate.steady device keeps) fun freed => spared.1 freed.2
  · intro device keeps v inside
    cases List.mem_append.1 inside with
    | inl old => exact separate.spared device keeps v old
    | inr new => exact adds.spared separate keeps new

theorem Separate.unused (separate : Separate kept r) {now : KernelConnector} (links : List Link)
    (stays : ∀ device, InUse device r.uses ∨ kept device → r.connector.Busy device →
      now.Busy device) : Separate kept ⟨now, links, r.uses⟩ where
  inUse := separate.inUse
  busy i device took :=
    stays device (.inl (separate.inUse i device took)) (separate.busy i device took)
  alone := separate.alone
  steady device keeps := stays device (.inr keeps) (separate.steady device keeps)
  spared := separate.spared

theorem Separate.next (separate : Separate kept r) (traced : Traced c r)
    (settles : Settles kept r request s) : Separate kept (r.next request s) := by
  have adds := traced.adds (r.did request)
  obtain ⟨taken, stays⟩ := settles
  unfold Rack.next
  generalize (r.outcome request).uses = fresh at adds taken stays
  match fresh, adds with
  | [], _ =>
    rw [List.append_nil]
    exact separate.unused _ fun device used busy => stays device used busy nofun
  | [u], adds =>
    refine separate.used adds _ (taken u List.mem_cons_self) ?_
    intro device used busy left
    exact stays device used busy fun v new => List.mem_singleton.1 new ▸ left

theorem Reaches.separate (busy : ∀ device, kept device → c.Busy device)
    (reached : Reaches kept c r) : Separate kept r := by
  induction reached with
  | start =>
    have none : ∀ {i device}, ¬ Took [] i device := by
      intro i device took
      obtain ⟨u, inside, -⟩ := took.mem
      cases inside
    exact ⟨fun _ _ took => absurd took none, fun _ _ took => absurd took none,
      fun _ _ _ took => absurd took none, busy, nofun⟩
  | next reached request s settles ih => exact ih.next reached.traced settles

/-- What links have to do with each other: nothing, as far as devices go. -/
structure Exclusive (kept : String → Prop) (c : KernelConnector) (r : Rack) : Prop where
  apart : ∀ (i j : Nat) (l m : Link) device, r.links[i]? = some l → r.links[j]? = some m →
    l.device = some device → m.device = some device → i = j
  told : r.connector.calls = c.calls ++ r.uses.map (·.arguments)
  held : ∀ (i : Nat) (l : Link), r.links[i]? = some l →
    ∀ device, l.device = some device ↔ Took r.uses i device
  orderly : Orderly r.uses
  answers : ∀ (l : Link) device, l.device = some device →
    r.connector.connect l = ((.ok device, l), r.connector)
  failed : ∀ request, (r.outcome request).done = false → (r.outcome request).links = r.links
  others : ∀ request j, j < r.links.length → request.link? ≠ some j →
    (r.outcome request).links[j]? = r.links[j]?
  spared : ∀ device, kept device → ∀ u ∈ r.uses,
    u.arguments ≠ toDisconnect device ∧ ∀ file, u.arguments ≠ toConnect device file

theorem Did.failed (did : Did r request made) (failed : made.done = false) :
    made.links = r.links := by
  cases did with
  | created | connected | disconnected => cases failed
  | idle | unconnected | stuck => rfl

theorem Did.others (did : Did r request made) (known : j < r.links.length)
    (other : request.link? ≠ some j) : made.links[j]? = r.links[j]? := by
  cases did with
  | created => exact List.getElem?_append_left known
  | idle | unconnected | stuck => rfl
  | connected | disconnected => exact List.getElem?_set_ne fun same => other (congrArg some same)

/-- Whatever is asked for whichever links, and however the tool and all others behave, nobody
shares a device. -/
theorem devices_exclusive (busy : ∀ device, kept device → c.Busy device)
    (reached : Reaches kept c r) : Exclusive kept c r := by
  have traced := reached.traced
  have separate := reached.separate busy
  constructor
  · intro i j l m device there also one two
    have took := (traced.held i l there device).1 one
    exact separate.alone i j device took ((traced.held j m also device).1 two)
  · exact traced.told
  · exact traced.held
  · exact traced.orderly
  · intro l device held
    rw [KernelConnector.connect, held]
  · exact fun request => (r.did request).failed
  · exact fun request j known other => (r.did request).others known other
  · exact separate.spared

theorem Did.directory (did : Did r request made) :
    made.connector.directory = r.connector.directory := by
  cases did <;> rfl

theorem settles_of_grown (more : ∀ name ∈ r.connector.busy, name ∈ s.busy)
    (taken : ∀ u ∈ (r.outcome request).uses, u.worked = true → ∃ index file,
      u.arguments = toConnect (r.connector.pathOf index) file ∧ nameOf index ∈ s.busy) :
    Settles kept r request s := by
  have same : ∀ index, r.connector.pathOf index =
      (amid (r.outcome request).connector s).pathOf index :=
    fun index => congrArg (Path.join · (nameOf index)) (r.did request).directory.symm
  constructor
  · intro u new device connects
    obtain ⟨worked, file, arguments⟩ := connects
    obtain ⟨index, file', also, busy⟩ := taken u new worked
    exact ⟨index, (toConnect_inj (arguments.symm.trans also)).trans (same index), busy⟩
  · intro device _ busy _
    obtain ⟨index, own, used⟩ := busy
    exact ⟨index, own.trans (same index), more _ used⟩

def working : Tool := ⟨"qemu-nbd", some fun _ => ⟨.success, ""⟩⟩

def failing : Tool := ⟨"qemu-nbd", some fun _ => ⟨.exited 1, "no such file"⟩⟩

/-- Somebody else uses the first of three devices. -/
def three : KernelConnector :=
  ⟨"/dev", ["nbd0", "nbd1", "nbd2"], ["nbd0"], working, fun _ busy => busy, []⟩

def Foreign (device : String) : Prop := device = "/dev/nbd0"

def pair : Rack :=
  ((⟨three, [], []⟩ : Rack).next (.create "/a") ⟨three.present, three.busy, working⟩).next
    (.create "/b") ⟨three.present, three.busy, working⟩

def first : Rack := pair.next (.connect 0) ⟨three.present, ["nbd0", "nbd1"], failing⟩

def refused : Rack := first.next (.connect 1) ⟨three.present, ["nbd0", "nbd1"], working⟩

def both : Rack := refused.next (.connect 1) ⟨three.present, three.present, working⟩

theorem reaches_both : Reaches Foreign three both := by
  have created : Reaches Foreign three pair := by
    apply Reaches.next
    · apply Reaches.next .start
      exact settles_of_grown (by decide +kernel) nofun
    · exact settles_of_grown (by decide +kernel) nofun
  have one : Reaches Foreign three first := by
    apply created.next
    have uses : (pair.outcome (.connect 0)).uses =
        [⟨0, toConnect (three.pathOf 1) "/a", true⟩] := by decide +kernel
    apply settles_of_grown (by decide +kernel)
    rw [uses]
    intro u new _
    rw [List.mem_singleton.1 new]
    exact ⟨1, "/a", rfl, by decide +kernel⟩
  have still : Reaches Foreign three refused := by
    apply one.next
    have uses : (first.outcome (.connect 1)).uses =
        [⟨1, toConnect (three.pathOf 2) "/b", false⟩] := by decide +kernel
    apply settles_of_grown (by decide +kernel)
    rw [uses]
    intro u new worked
    rw [List.mem_singleton.1 new] at worked
    cases worked
  apply still.next
  have uses : (refused.outcome (.connect 1)).uses =
      [⟨1, toConnect (three.pathOf 2) "/b", true⟩] := by decide +kernel
  apply settles_of_grown (by decide +kernel)
  rw [uses]
  intro u new _
  rw [List.mem_singleton.1 new]
  exact ⟨2, "/b", rfl, by decide +kernel⟩

theorem devices_exclusive_for_both :
    (∀ device, Foreign device → three.Busy device) ∧ Reaches Foreign three both ∧
    both.links = [⟨"/a", some "/dev/nbd1"⟩, ⟨"/b", some "/dev/nbd2"⟩] ∧
    Exclusive Foreign three both := by
  have busy : ∀ device, Foreign device → three.Busy device := by
    rintro device rfl
    exact ⟨0, by decide +kernel, by decide +kernel⟩
  exact ⟨busy, reaches_both, by decide +kernel, devices_exclusive busy reaches_both⟩

end Rack

end BlockVolumes.KernelConnector
