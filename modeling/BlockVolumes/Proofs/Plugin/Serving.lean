import BlockVolumes.Proofs.Http.Serve
import BlockVolumes.Proofs.Plugin.ByName

/-! Which calls the requests of the plugin protocol come to. -/

namespace BlockVolumes

open Operation
open Bench (Touched)
open BlockDriver (leads_query)

variable {d : BlockDriver} {b c : Bench}

namespace Plugin

variable {s : Server}

def Done (s : Server) (d : BlockDriver) (b : Bench) (mishaps : List Mishap) (reply : Http.Reply)
    (c : Bench) : Prop :=
  c = b ∨ ∃ verb name, Handled s d b name verb mishaps reply c

theorem leads_list (serves : s.registry.get s.driver = .ok d.toVolumeDriver) :
    s.list.Leads b (Done s d b) := by
  simp only [Server.list, resolve_of_get serves, Server.orReply]
  apply Routine.leads_bind.2
  apply leads_query
  intro result
  cases result <;> exact .inl rfl

theorem leads_verb (serves : s.registry.get s.driver = .ok d.toVolumeDriver) (sound : b.Sound)
    (verb : Verb) (body : List UInt8) : (verb.work s body).Leads b (Done s d b) := by
  cases asked : verb.name? body with
  | some name =>
    apply (leads_handled serves sound asked).mono
    intro mishaps reply c handled
    exact .inr ⟨verb, name, handled⟩
  | none =>
    apply (leads_unread serves asked).mono
    intro mishaps reply c same
    exact .inl same

theorem leads_request (serves : s.registry.get s.driver = .ok d.toVolumeDriver) (sound : b.Sound)
    (request : Http.Request) : (s.serve request).Leads b (Done s d b) := by
  apply Http.leads_serve fun _ => .inl rfl
  intro route member entry there
  simp only [Server.routes, Server.post, List.mem_cons, List.not_mem_nil, or_false] at member
  rcases member with rfl | rfl | rfl | rfl | rfl | rfl | rfl | rfl | rfl | rfl <;>
    obtain rfl := List.mem_singleton.1 there
  · exact leads_verb serves sound .create
  · exact leads_verb serves sound .remove
  · exact leads_verb serves sound .mount
  · exact leads_verb serves sound .path
  · exact leads_list serves
  · exact leads_verb serves sound .get
  · exact leads_verb serves sound .unmount
  · exact .inl rfl
  · exact .inl rfl
  · exact .inl rfl

theorem Done.touched {mishaps : List Mishap} {reply : Http.Reply} (sound : b.Sound)
    (done : Done s d b mishaps reply c) : Touched d b c := by
  rcases done with rfl | ⟨verb, name, handled⟩
  · exact .refl d c
  · exact (handled.worked sound).touched

theorem leads_serve (serves : s.registry.get s.driver = .ok d.toVolumeDriver) (sound : b.Sound)
    (request : Http.Request) : (s.serve request).Leads b fun _ _ c => Touched d b c :=
  (leads_request serves sound request).mono fun _ _ _ done => done.touched sound

end Plugin

end BlockVolumes
