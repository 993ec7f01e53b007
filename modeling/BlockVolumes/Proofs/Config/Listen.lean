import BlockVolumes.Config.Check
import BlockVolumes.Proofs.Storage.Trail
import BlockVolumes.Proofs.Text.Lead

/-!
Addresses to listen on, as they are read and as they are written. What is read as an address is read
as the same address from its written form, whatever leads and blanks it was given with.
-/

namespace BlockVolumes

namespace ListenAddress

variable {a : ListenAddress} {s : List Char} {raw : String}

/-- A socket has an absolute path. An address on the network has a port, and cannot be taken for a
path. -/
def Proper : ListenAddress → Prop
  | socket path => Path.isAbsolute path = true
  | network address => ':' ∈ address.toList ∧ Path.isAbsolute address = false

def place : ListenAddress → String
  | socket path => path
  | network address => address

theorem withoutLead_spec (lead : String) (s : List Char) :
    ∃ front, s = front ++ withoutLead lead s := by
  rw [withoutLead]
  cases follows : Text.after? lead.toList s with
  | none => exact ⟨[], rfl⟩
  | some rest => exact ⟨lead.toList, Text.after?_eq_some.1 follows⟩

theorem withoutLead_append (lead : String) (rest : List Char) :
    withoutLead lead (lead.toList ++ rest) = rest := by
  rw [withoutLead, Text.after?_append]
  rfl

theorem proper_of_readTrimmed (read : readTrimmed s = .ok a) :
    a.Proper ∧ ∃ front, s = front ++ a.place.toList := by
  unfold readTrimmed at read
  split at read
  · rename_i path follows
    have whole := Text.after?_eq_some.1 follows
    split at read
    · rename_i absolute
      obtain rfl := Except.ok.inj read
      have root : startsAtRoot (String.ofList path).toList = true := by
        rwa [String.toList_ofList]
      exact ⟨root, socketLead.toList, by rwa [place, String.toList_ofList]⟩
    · cases read
  · obtain ⟨front, whole⟩ := withoutLead_spec networkLead s
    generalize withoutLead networkLead s = rest at read whole
    dsimp only at read
    split at read
    · rename_i absolute
      obtain rfl := Except.ok.inj read
      have root : startsAtRoot (String.ofList rest).toList = true := by
        rwa [String.toList_ofList]
      exact ⟨root, front, by rwa [place, String.toList_ofList]⟩
    · rename_i relative
      split at read
      · rename_i port
        obtain rfl := Except.ok.inj read
        have noRoot : startsAtRoot (String.ofList rest).toList = false := by
          rw [String.toList_ofList]
          exact Bool.eq_false_iff.2 relative
        refine ⟨⟨by rwa [String.toList_ofList], noRoot⟩, front, ?_⟩
        rwa [place, String.toList_ofList]
      · cases read

theorem place_ne_nil (proper : a.Proper) : a.place.toList ≠ [] := by
  intro empty
  cases a with
  | socket path =>
    have root : startsAtRoot path.toList = true := proper
    rw [show path.toList = [] from empty] at root
    cases root
  | network address =>
    have port : ':' ∈ address.toList := proper.1
    rw [show address.toList = [] from empty] at port
    cases port

def lead : ListenAddress → String
  | socket _ => socketLead
  | network _ => networkLead

theorem visible_lead (a : ListenAddress) (s : List Char) :
    ∃ c, (a.lead.toList ++ s).head? = some c ∧ Text.isBlank c = false := by
  cases a with
  | socket path => exact ⟨'u', by simp [lead, socketLead], rfl⟩
  | network address => exact ⟨'t', by simp [lead, networkLead], rfl⟩

theorem toList_text (a : ListenAddress) :
    a.text.toList = a.lead.toList ++ a.place.toList := by
  cases a <;> exact String.toList_append

theorem readTrimmed_text (proper : a.Proper) : readTrimmed a.text.toList = .ok a := by
  rw [toList_text]
  cases a with
  | socket path =>
    have root : startsAtRoot path.toList = true := proper
    simp only [readTrimmed, lead, place, Text.after?_append, root, if_true, String.ofList_toList]
  | network address =>
    have relative : startsAtRoot address.toList = false := proper.2
    have other : Text.after? socketLead.toList (networkLead.toList ++ address.toList) = none := by
      simp [socketLead, networkLead, Text.after?]
    simp only [readTrimmed, lead, place, other, withoutLead_append, relative,
      Bool.false_eq_true, if_false, proper.1, if_true, String.ofList_toList]

theorem read_text (proper : a.Proper) (visible : Text.EndsVisibly a.place.toList) :
    read a.text = .ok a := by
  have tight : Text.Tight a.text.toList := by
    constructor
    · intro c first
      obtain ⟨d, own, visibly⟩ := a.visible_lead a.place.toList
      rw [toList_text, own] at first
      rwa [← Option.some.inj first]
    · rw [toList_text]
      exact visible.append a.lead.toList (place_ne_nil proper)
  calc
    read a.text = readTrimmed (Text.trim a.text.toList) := rfl
    _ = readTrimmed a.text.toList := by rw [Text.trim_of_tight tight]
    _ = .ok a := readTrimmed_text proper

theorem spec_of_read (read : ListenAddress.read raw = .ok a) :
    a.Proper ∧ Text.EndsVisibly a.place.toList := by
  obtain ⟨proper, front, whole⟩ := proper_of_readTrimmed read
  have last : Text.EndsVisibly (Text.trim raw.toList) := (Text.stripped_trim raw.toList).1.2
  rw [whole] at last
  exact ⟨proper, last.of_append⟩

end ListenAddress

namespace Config

variable {s : Settings} {m : Manifest}

theorem DriverSettings.flat_of_check {s : DriverSettings} (checked : s.check = .ok ()) :
    '/' ∉ s.name.toList := by
  intro nested
  simp only [DriverSettings.check, nested, if_true] at checked
  split at checked <;> cases checked

theorem Settings.listens_of_check (checked : s.check = .ok ()) :
    s.driver.check = .ok () ∧ (∃ plugin, s.pluginListen = .ok plugin) ∧
      ∃ api, s.apiListen = .ok api := by
  unfold Settings.check at checked
  cases driver : s.driver.check with
  | error error =>
    rw [driver] at checked
    cases checked
  | ok done =>
  rw [driver] at checked
  by_cases absolute : Path.isAbsolute s.plugin.mountBase = true
  · cases plugin : s.pluginListen with
    | error error =>
      simp only [absolute, plugin] at checked
      cases checked
    | ok address =>
    cases api : s.apiListen with
    | error error =>
      simp only [absolute, plugin, api] at checked
      cases checked
    | ok other => exact ⟨rfl, ⟨address, rfl⟩, other, rfl⟩
  · simp only [absolute] at checked
    cases checked

theorem Manifest.settings_of_check (checked : m.check = .ok ()) : m.settings.check = .ok () := by
  unfold Manifest.check at checked
  by_cases version : m.version ≠ knownVersion
  · rw [if_pos version] at checked
    cases checked
  by_cases kind : m.kind ≠ knownKind
  · rw [if_neg version, if_pos kind] at checked
    cases checked
  by_cases name : m.metadata.name = ""
  · rw [if_neg version, if_neg kind, if_pos name] at checked
    cases checked
  · rwa [if_neg version, if_neg kind, if_neg name] at checked

theorem Settings.pluginListen_of_none (unset : s.plugin.listen = none) :
    s.pluginListen = .ok (.socket (Path.join pluginSockets (s.driver.name ++ ".sock"))) := by
  rw [pluginListen, unset]

theorem isName_sock {name : String} (flat : '/' ∉ name.toList) :
    Path.IsName (name ++ ".sock").toList := by
  constructor
  · have long : 5 ≤ (name ++ ".sock").toList.length := by
      rw [String.toList_append, List.length_append]
      exact Nat.le_add_left 5 _
    exact Path.componentOf?_of_length (by omega)
  · intro inside
    rw [String.toList_append, List.mem_append] at inside
    cases inside with
    | inl own => exact flat own
    | inr ending => exact absurd ending (by decide)

/-- An address that is read, from whatever text, is read again from its written form; a socket has
an absolute path, and an address on the network has a port and is no absolute path. Thus manifests
that pass have both of their addresses, and the socket that stands for a plugin's missing address is
one name below the directory for such sockets. -/
theorem addresses_read_back :
    (∀ raw a, ListenAddress.read raw = .ok a → ListenAddress.read a.text = .ok a ∧ a.Proper) ∧
    ∀ m : Manifest, m.check = .ok () →
      (∃ plugin, m.settings.pluginListen = .ok plugin) ∧
      (∃ api, m.settings.apiListen = .ok api) ∧
      (m.settings.plugin.listen = none →
        ∃ path, m.settings.pluginListen = .ok (.socket path) ∧
          Path.components path = Path.components pluginSockets ++
            [.name (m.settings.driver.name ++ ".sock").toList]) := by
  constructor
  · intro raw a read
    obtain ⟨proper, visible⟩ := ListenAddress.spec_of_read read
    exact ⟨ListenAddress.read_text proper visible, proper⟩
  · intro m checked
    obtain ⟨driver, plugin, api⟩ := Settings.listens_of_check (Manifest.settings_of_check checked)
    refine ⟨plugin, api, ?_⟩
    intro unset
    have name := isName_sock (DriverSettings.flat_of_check driver)
    exact ⟨_, Settings.pluginListen_of_none unset, Path.components_join name⟩

/-- A path with the lead of the network is read as a socket, and a second lead stays a part of the
address. A driver may have a name that leads upwards by itself. -/
theorem addresses_read_back_leads :
    let nested : ListenAddress := .network "unix://[::1]:9005"
    let upwards : Manifest :=
      { Manifest.standard with
        settings := { Settings.standard with
          driver := { DriverSettings.standard with name := ".." } } }
    (ListenAddress.read " tcp://unix://[::1]:9005\n" = .ok nested ∧
      ListenAddress.read nested.text = .ok nested) ∧
    (ListenAddress.read "tcp:///run/own.sock" = .ok (.socket "/run/own.sock") ∧
      ListenAddress.read "unix:///run/own.sock" = .ok (.socket "/run/own.sock")) ∧
    upwards.check = .ok () ∧ upwards.settings.plugin.listen = none ∧
    ∃ path, upwards.settings.pluginListen = .ok (.socket path) ∧
      Path.components path = Path.components pluginSockets ++ [.name "...sock".toList] := by
  have nested : ListenAddress.read " tcp://unix://[::1]:9005\n" =
    .ok (.network "unix://[::1]:9005") := by decide +kernel
  have bare : ListenAddress.read "tcp:///run/own.sock" = .ok (.socket "/run/own.sock") := by
    decide +kernel
  refine ⟨⟨nested, (addresses_read_back.1 _ _ nested).1⟩,
    ⟨bare, (addresses_read_back.1 _ _ bare).1⟩, by decide +kernel, rfl, ?_⟩
  exact (addresses_read_back.2 _ (by decide +kernel)).2.2 rfl

end Config

end BlockVolumes
