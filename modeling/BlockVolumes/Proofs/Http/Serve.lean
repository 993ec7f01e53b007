import BlockVolumes.Http.Route
import BlockVolumes.Proofs.Driver.Bench

/-! What serving a request leads to, from what each handler of the routes leads to. -/

namespace BlockVolumes.Http

variable {b : Bench} {post : List Mishap → Reply → Bench → Prop}

def Handler.Leads (b : Bench) (post : List Mishap → Reply → Bench → Prop) : Handler → Prop
  | plain handle => handle.Leads b post
  | query handle => ∀ pairs, (handle pairs).Leads b post
  | body handle => ∀ bytes, (handle bytes).Leads b post

def Endpoint.Leads (b : Bench) (post : List Mishap → Reply → Bench → Prop) : Endpoint → Prop
  | fixed handler => handler.Leads b post
  | withId handler => ∀ id, (handler id).Leads b post

def Silent (b : Bench) (post : List Mishap → Reply → Bench → Prop) : Prop :=
  ∀ reply, post [] reply b

theorem Handler.Leads.run {handler : Handler} (leads : handler.Leads b post)
    (silent : Silent b post) (request : Request) : (handler.run request).Leads b post := by
  cases handler with
  | plain handle => exact leads
  | query handle => exact leads _
  | body handle =>
    simp only [Handler.run]
    split
    · exact silent _
    · exact leads request.body

theorem Endpoint.Leads.run {endpoint : Endpoint} (leads : endpoint.Leads b post)
    (silent : Silent b post) (free : List UInt8) (request : Request) :
    (endpoint.run free request).Leads b post := by
  cases endpoint with
  | fixed handler => exact Handler.Leads.run leads silent request
  | withId handler =>
    simp only [Endpoint.run]
    split
    · exact (leads _).run silent request
    · exact silent _

theorem of_findRoute {routes : List Route} {segments : List (List UInt8)} {route : Route}
    (found : findRoute routes segments = some route) :
    route ∈ routes ∧ route.fits segments = true := by
  apply List.mem_filter.1
  rcases Option.or_eq_some_iff.1 found with wholly | ⟨-, first⟩
  · exact List.mem_of_find?_eq_some wholly
  · exact List.mem_of_head? first

theorem mem_of_endpoint? {route : Route} {method : String} {endpoint : Endpoint}
    (found : route.endpoint? method = some endpoint) : (method, endpoint) ∈ route.methods := by
  obtain ⟨⟨name, other⟩, there, rfl⟩ := Option.map_eq_some_iff.1 found
  obtain rfl : name = method := by simpa using List.find?_some there
  exact List.mem_of_find?_eq_some there

theorem leads_routed {routes : List Route} {request : Request} (silent : Silent b post)
    (all : ∀ segments, request.uri.segments? = some segments → ∀ route ∈ routes,
      route.fits segments = true → ∀ entry ∈ route.methods,
      request.method = entry.1 ∨ entry.1 = "GET" →
      (entry.2.run (route.freeSegment segments) request).Leads b post) :
    (serve routes request).Leads b post := by
  unfold serve
  split
  · exact silent _
  · rename_i segments path
    split
    · exact silent _
    · rename_i route found
      obtain ⟨member, fits⟩ := of_findRoute found
      have each := fun {method endpoint} (known : route.endpoint? method = some endpoint) =>
        all segments path route member fits (method, endpoint) (mem_of_endpoint? known)
      dsimp only
      split
      · rename_i endpoint known
        exact each known (.inl rfl)
      · split
        · rename_i endpoint known
          exact each known (.inr rfl)
        · exact silent _
      · exact silent _

theorem leads_serve {routes : List Route} (silent : Silent b post)
    (all : ∀ route ∈ routes, ∀ entry ∈ route.methods, entry.2.Leads b post) (request : Request) :
    (serve routes request).Leads b post := by
  apply leads_routed silent
  intro segments path route member fits entry there method
  exact Endpoint.Leads.run (all route member entry there) silent _ _

end BlockVolumes.Http
