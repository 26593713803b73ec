import Showroom.Service.Serve

/-!
# Showroom.Proofs.Service.Frame

What a call may change, method by method, and how runs are put together. Creating a laptop writes
the catalog, uploading an image the gallery and the disk, rating the scoreboard; searching and
logging in write nothing.

* `serve_cases`: a call is turned away, meets no method, or is performed.
* `run_append`: a run of two lists is the run of the second from where the first one ends.
-/

namespace Showroom

namespace Method

theorem path_of_ofPath? {path : String} {m : Method} (h : ofPath? path = some m) :
    path = m.path := by
  have hm := List.find?_some h
  exact (of_decide_eq_true hm).symm

end Method

namespace Server

variable {server : Server} {o : Circumstances} {call : Call} {s : State} {context : CallContext}

theorem createLaptop_state :
    ∃ catalog, (createLaptop o call s context).2 = { s with catalog := catalog } := by
  unfold createLaptop
  split
  · exact ⟨s.catalog, rfl⟩
  · split
    · exact ⟨s.catalog, rfl⟩
    · exact ⟨_, rfl⟩

theorem searchLaptop_state : (searchLaptop call s).2 = s := by
  unfold searchLaptop
  split <;> rfl

theorem uploadImage_state :
    ∃ gallery disk, (server.uploadImage o call s).2 = { s with gallery := gallery, disk := disk } := by
  unfold uploadImage
  split
  · exact ⟨s.gallery, s.disk, rfl⟩
  · exact ⟨_, _, rfl⟩

theorem rateLaptop_state :
    ∃ scoreboard, (rateLaptop call s).2 = { s with scoreboard := scoreboard } :=
  ⟨_, rfl⟩

theorem login_state : (server.login o call s).2 = s := by
  unfold login
  split
  · rfl
  · split <;> rfl

/-! ## One call -/

def admits (server : Server) (o : Circumstances) (call : Call) : Bool :=
  (server.guard.pass o.time o.arrival o.flag call.path call.metadata).isOk

/-- What serving a call comes to: it is turned away, it meets no method, or a method is
performed. -/
theorem serve_cases (server : Server) (o : Circumstances) (call : Call) (s : State) :
    (server.admits o call = false ∧ (server.serve o call s).2 = s) ∨
    (server.admits o call = true ∧ Method.ofPath? call.path = none ∧
      (server.serve o call s).2 = s) ∨
    (server.admits o call = true ∧ ∃ method context, Method.ofPath? call.path = some method ∧
      server.serve o call s = server.perform o call s context method) := by
  unfold admits serve
  cases hp : server.guard.pass o.time o.arrival o.flag call.path call.metadata with
  | error denial => exact .inl ⟨rfl, rfl⟩
  | ok admission =>
    cases hm : Method.ofPath? call.path with
    | none => exact .inr (.inl ⟨rfl, rfl, rfl⟩)
    | some method => exact .inr (.inr ⟨rfl, method, admission.context, rfl, rfl⟩)

theorem serve_state_of_not_admits (h : server.admits o call = false) :
    (server.serve o call s).2 = s := by
  rcases serve_cases server o call s with ⟨_, hs⟩ | ⟨ha, _⟩ | ⟨ha, _⟩
  · exact hs
  · rw [h] at ha; cases ha
  · rw [h] at ha; cases ha

theorem exists_method_of_state_ne (h : (server.serve o call s).2 ≠ s) :
    server.admits o call = true ∧ ∃ method context, call.path = method.path ∧
      (server.serve o call s).2 = (server.perform o call s context method).2 := by
  rcases serve_cases server o call s with ⟨_, hs⟩ | ⟨_, _, hs⟩ | ⟨ha, method, context, hm, hs⟩
  · exact absurd hs h
  · exact absurd hs h
  · exact ⟨ha, method, context, Method.path_of_ofPath? hm, by rw [hs]⟩

theorem exists_serve_of_admits {method : Method} (admitted : server.admits o call = true)
    (path : call.path = method.path) :
    ∃ context, server.serve o call s = server.perform o call s context method := by
  have hmethod : Method.ofPath? call.path = some method := by
    rw [path]
    cases method <;> rfl
  rcases serve_cases server o call s with ⟨ha, _⟩ | ⟨_, hm, _⟩ | ⟨_, other, context, hm, hserve⟩
  · rw [admitted] at ha; cases ha
  · rw [hmethod] at hm; cases hm
  · obtain rfl := Option.some.inj (hmethod.symm.trans hm)
    exact ⟨context, hserve⟩

/-! ## Runs -/

@[simp] theorem run_nil (server : Server) (s : State) : server.run [] s = ([], s) := rfl

@[simp] theorem run_cons (server : Server) (o : Circumstances) (call : Call)
    (rest : List (Circumstances × Call)) (s : State) :
    server.run ((o, call) :: rest) s =
      ((server.serve o call s).1 :: (server.run rest (server.serve o call s).2).1,
        (server.run rest (server.serve o call s).2).2) := rfl

theorem run_append (server : Server) (before after : List (Circumstances × Call)) (s : State) :
    server.run (before ++ after) s =
      ((server.run before s).1 ++ (server.run after (server.run before s).2).1,
        (server.run after (server.run before s).2).2) := by
  induction before generalizing s with
  | nil => simp
  | cons p before ih =>
    obtain ⟨o, call⟩ := p
    simp [ih]

end Server

end Showroom
