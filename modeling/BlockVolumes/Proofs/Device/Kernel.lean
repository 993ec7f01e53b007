import BlockVolumes.Proofs.Device.Search

/-! What one call of the connector does for a link: which device it takes, what it has the tool do,
and what becomes of the link. -/

namespace BlockVolumes.KernelConnector

variable {c : KernelConnector} {l : Link} {device other file : String}

def toConnect (device file : String) : List String :=
  ["--connect=" ++ device, "--format=raw", file]

def toDisconnect (device : String) : List String := ["--disconnect", device]

theorem toConnect_inj {file' : String} (same : toConnect device file = toConnect other file') :
    device = other := by
  have lead := (List.cons.inj same).1
  rw [String.ext_iff, String.toList_append, String.toList_append] at lead
  exact String.toList_inj.1 (List.append_cancel_left lead)

theorem toDisconnect_inj (same : toDisconnect device = toDisconnect other) : device = other :=
  (List.cons.inj (List.cons.inj same).2).1

theorem toConnect_ne_toDisconnect : toConnect device file ≠ toDisconnect other := by
  intro same
  have lengths := congrArg List.length same
  exact absurd lengths (by simp [toConnect, toDisconnect])

def called (c : KernelConnector) (arguments : List String) : KernelConnector :=
  { c with calls := c.calls ++ [arguments], busy := c.settle arguments c.busy }

theorem call_spec (c : KernelConnector) (arguments : List String) :
    c.call arguments = (.ok (), c.called arguments) ∨
      ∃ reason, c.call arguments = (.error reason, c) ∨
        c.call arguments = (.error reason, c.called arguments) := by
  unfold call
  cases c.tool.run arguments with
  | error error => exact .inr ⟨_, .inl rfl⟩
  | ok run =>
    by_cases good : run.status = .success
    · exact .inl (if_pos good)
    · exact .inr ⟨_, .inr (if_neg good)⟩

inductive Connecting (c : KernelConnector) (l : Link) :
    (Except DeviceError String × Link) × KernelConnector → Prop
  | holds {device : String} (held : l.device = some device) : Connecting c l ((.ok device, l), c)
  | idle {error : DeviceError} (bare : l.device = none) : Connecting c l ((.error error, l), c)
  | refused {device reason : String} (bare : l.device = none) (free : c.Free device) :
    Connecting c l ((.error (.connect l.file reason), l), c.called (toConnect device l.file))
  | taken {device : String} (bare : l.device = none) (free : c.Free device) :
    Connecting c l ((.ok device, { l with device := some device }),
      c.called (toConnect device l.file))

theorem connecting (c : KernelConnector) (l : Link) : Connecting c l (c.connect l) := by
  cases bare : l.device with
  | some device =>
    rw [connect, bare]
    exact .holds bare
  | none =>
    cases found : c.freeDevice with
    | error error =>
      simp only [connect, bare, found]
      exact .idle bare
    | ok device =>
      have free : c.Free device := free_of_freeDevice found
      simp only [connect, bare, found]
      rcases c.call_spec (toConnect device l.file) with worked | ⟨reason, unstarted | failed⟩
      · rw [show c.call ["--connect=" ++ device, "--format=raw", l.file] = _ from worked]
        exact .taken bare free
      · rw [show c.call ["--connect=" ++ device, "--format=raw", l.file] = _ from unstarted]
        exact .idle bare
      · rw [show c.call ["--connect=" ++ device, "--format=raw", l.file] = _ from failed]
        exact .refused bare free

inductive Disconnecting (c : KernelConnector) (l : Link) :
    (Except DeviceError Unit × Link) × KernelConnector → Prop
  | idle {error : DeviceError} : Disconnecting c l ((.error error, l), c)
  | refused {device reason : String} (held : l.device = some device) :
    Disconnecting c l ((.error (.disconnect device reason), l), c.called (toDisconnect device))
  | freed {device : String} (held : l.device = some device) :
    Disconnecting c l ((.ok (), { l with device := none }), c.called (toDisconnect device))

theorem disconnecting (c : KernelConnector) (l : Link) :
    Disconnecting c l (c.disconnect l) := by
  cases held : l.device with
  | none =>
    simp only [disconnect, held]
    exact .idle
  | some device =>
    simp only [disconnect, held]
    rcases c.call_spec (toDisconnect device) with worked | ⟨reason, unstarted | failed⟩
    · rw [show c.call ["--disconnect", device] = _ from worked]
      exact .freed held
    · rw [show c.call ["--disconnect", device] = _ from unstarted]
      exact .idle
    · rw [show c.call ["--disconnect", device] = _ from failed]
      exact .refused held

end BlockVolumes.KernelConnector
