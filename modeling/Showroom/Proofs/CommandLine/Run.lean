import Showroom.CommandLine.Run
import Showroom.Proofs.Service.Consistency

/-!
# Showroom.Proofs.CommandLine.Run

What a command does to the service: it makes calls, one after the other, and nothing else. A command
that is carried out makes as many calls as it says, and one that fails no more than that.

* `CommandLine.Course`: what calls, and choices between them, make of a visit.
* `CommandLine.makes_run`: how many calls a command makes.
* `CommandLine.reaches_run`: what is true in every state that the service can come to is true after
  every command.
-/

namespace Showroom.CommandLine

variable {w : Surroundings} {server : Server} {α β ε : Type}

/-- Whether a state comes from another by one call of a client, which may not send it. -/
def Sends (server : Server) (o : Circumstances) (s s' : State) : Prop :=
  s' = s ∨ ∃ call, s' = (server.serve o call s).2

/-- What some calls, and choices between them, make of a visit. -/
inductive Course (w : Surroundings) (server : Server) (start : Visit) : Nat → Visit → Prop
  | start : Course w server start 0 start
  | choice {n : Nat} {v : Visit} (draws : Draws) (before : Course w server start n v) :
      Course w server start n { v with draws := draws }
  | call {n : Nat} {v : Visit} {s : State} (before : Course w server start n v)
      (sends : Sends server (w.circumstances v.calls) v.state s) :
      Course w server start (n + 1) { v with state := s, calls := v.calls + 1 }

namespace Course

variable {n m : Nat} {start v v' : Visit}

theorem trans (h : Course w server start n v) (h' : Course w server v m v') :
    Course w server start (n + m) v' := by
  induction h' with
  | start => exact h
  | choice draws _ ih => exact ih.choice draws
  | call _ sends ih => exact ih.call sends

theorem calls_eq (h : Course w server start n v) : v.calls = start.calls + n := by
  induction h with
  | start => rfl
  | choice _ _ ih => exact ih
  | call _ _ ih => exact congrArg Nat.succ ih

theorem reaches {first : State} {accepted : Nat} (h : Course w server start n v)
    (hstart : server.Reaches first accepted start.state) :
    ∃ more, accepted ≤ more ∧ server.Reaches first more v.state := by
  induction h with
  | start => exact ⟨accepted, Nat.le_refl _, hstart⟩
  | choice _ _ ih => exact ih
  | call _ sends ih =>
    obtain ⟨more, hmore, hreaches⟩ := ih
    rcases sends with rfl | ⟨call, rfl⟩
    · exact ⟨more, hmore, hreaches⟩
    · exact ⟨_, Nat.le_add_right_of_le hmore, hreaches.serve _ call⟩

end Course

/-- Part of a command that makes so many calls, or fewer if it fails. -/
structure Makes (w : Surroundings) (server : Server) (n : Nat) (e : Errand α) : Prop where
  most : ∀ v, ∃ m ≤ n, Course w server v m (e v).2
  all : ∀ v a, (e v).1 = .ok a → Course w server v n (e v).2

section Bind

variable {e : Errand α} {f : α → Errand β} {v v' : Visit}

theorem bind_of_ok {a : α} (h : e v = (.ok a, v')) : (e >>= f) v = f a v' := by
  change ExceptT.bindCont f (e v).1 (e v).2 = _
  rw [h]
  rfl

theorem bind_of_error {cause : Failure} (h : e v = (.error cause, v')) :
    (e >>= f) v = (.error cause, v') := by
  change ExceptT.bindCont f (e v).1 (e v).2 = _
  rw [h]
  rfl

end Bind

namespace Makes

variable {n m : Nat} {e : Errand α} {f : α → Errand β}

theorem of_pure (a : α) : Makes w server 0 (pure a : Errand α) :=
  ⟨fun _ => ⟨0, Nat.le_refl _, .start⟩, fun _ _ _ => .start⟩

theorem bind (he : Makes w server n e) (hf : ∀ a, Makes w server m (f a)) :
    Makes w server (n + m) (e >>= f) := by
  refine ⟨fun v => ?_, fun v b hb => ?_⟩
  · cases hv : e v with
    | mk result v' =>
      cases result with
      | error cause =>
        obtain ⟨k, hk, hcourse⟩ := he.most v
        rw [bind_of_error hv]
        rw [hv] at hcourse
        exact ⟨k, Nat.le_add_right_of_le hk, hcourse⟩
      | ok a =>
        obtain ⟨k, hk, hcourse⟩ := (hf a).most v'
        have hfirst := he.all v a (by rw [hv])
        rw [bind_of_ok hv]
        rw [hv] at hfirst
        exact ⟨n + k, Nat.add_le_add_left hk n, hfirst.trans hcourse⟩
  · cases hv : e v with
    | mk result v' =>
      cases result with
      | error cause =>
        rw [bind_of_error hv] at hb
        cases hb
      | ok a =>
        have hfirst := he.all v a (by rw [hv])
        rw [bind_of_ok hv] at hb ⊢
        rw [hv] at hfirst
        exact hfirst.trans ((hf a).all v' b hb)

theorem cast (he : Makes w server n e) (h : n = m) : Makes w server m e := h ▸ he

theorem of_choose (sampler : Sampler α) : Makes w server 0 (choose sampler) :=
  ⟨fun _ => ⟨0, Nat.le_refl _, .choice _ .start⟩, fun _ _ _ => .choice _ .start⟩

theorem of_perform {fail : ε → Failure} {call : Circumstances → State → Except ε α × State}
    (h : ∀ o s, Sends server o s (call o s).2) : Makes w server 1 (perform w fail call) :=
  ⟨fun _ => ⟨1, Nat.le_refl _, .call .start (h _ _)⟩, fun _ _ _ => .call .start (h _ _)⟩

end Makes

/-! ## The calls of a client -/

variable (client : Client) (o : Circumstances) (s : State)

theorem sends_call {μ : Type} [Wire.Message μ] (method : Method) (messages : List μ) :
    Sends client.server o s (client.call o s method messages).2 := by
  unfold Client.call
  split
  · exact .inl rfl
  · exact .inr ⟨_, rfl⟩

theorem sends_logIn (username password : String) :
    Sends client.server o s (client.logIn o s username password).2 := by
  have hcall := sends_call client o s .login [LoginRequest.mk username password]
  unfold Client.logIn
  split
  all_goals
    rename_i heq
    rwa [heq] at hcall

theorem sends_createLaptop (laptop : Laptop) :
    Sends client.server o s (client.createLaptop o s laptop).2 := by
  have hcall := sends_call client o s .createLaptop [CreateLaptopRequest.mk (some laptop)]
  unfold Client.createLaptop
  split
  · rename_i heq
    rwa [heq] at hcall
  · rename_i heq
    rw [heq] at hcall
    split <;> exact hcall

theorem sends_searchLaptops (filter : Showroom.Filter) :
    Sends client.server o s (client.searchLaptops o s filter).2 := by
  have hcall := sends_call client o s .searchLaptop [SearchLaptopRequest.mk (some filter)]
  unfold Client.searchLaptops
  split
  all_goals
    rename_i heq
    rwa [heq] at hcall

theorem sends_uploadImage (laptopId : String) (file : Except DiskError ImageFile) :
    Sends client.server o s (client.uploadImage o s laptopId file).2 := by
  unfold Client.uploadImage
  split
  · exact .inl rfl
  · rename_i file
    have hcall := sends_call client o s .uploadImage (file.requests laptopId)
    split
    all_goals
      rename_i heq
      rwa [heq] at hcall

theorem sends_rateLaptops (ids : List String) (scores : List Binary64) :
    Sends client.server o s (client.rateLaptops o s ids scores).2 := by
  unfold Client.rateLaptops
  split
  · exact .inl rfl
  · rename_i requests _
    have hcall := sends_call client o s .rateLaptop requests
    split
    all_goals
      rename_i heq
      rwa [heq] at hcall

/-! ## Commands -/

def Command.calls : Command → Nat
  | .create count => count
  | .search .. => 1
  | .upload _ => 2
  | .rate count rounds => count + rounds

theorem makes_createOne : Makes w client.server 1 (createOne w client) :=
  (Makes.of_choose _).bind fun laptop =>
    (Makes.of_perform fun o s => sends_createLaptop client o s laptop).bind fun _ => .of_pure _

theorem makes_createMany (count : Nat) : Makes w client.server count (createMany w client count) := by
  induction count with
  | zero => exact .of_pure []
  | succ count ih =>
    have hboth := (makes_createOne (w := w) client).bind fun id =>
      ih.bind fun ids => .of_pure (id :: ids)
    exact hboth.cast (by omega)

theorem makes_rateOnce (ids : List String) : Makes w client.server 1 (rateOnce w client ids) := by
  have hrate : ∀ scores, Makes w client.server 1 (do
      let _ ← perform w .callFailed fun o s => client.rateLaptops o s ids scores) := fun scores =>
    (Makes.of_perform fun o s => sends_rateLaptops client o s ids scores).bind fun _ => .of_pure ()
  exact ((Makes.of_choose _).bind hrate).cast (Nat.zero_add 1)

theorem makes_rateOften (ids : List String) (rounds : Nat) :
    Makes w client.server rounds (rateOften w client ids rounds) := by
  induction rounds with
  | zero => exact .of_pure ()
  | succ rounds ih =>
    exact ((makes_rateOnce client ids).bind fun _ => ih).cast (Nat.add_comm 1 rounds)

/-- **A command makes its calls and does nothing else to the service.** -/
theorem makes_run (c : Command) : Makes w client.server c.calls (c.run w client) := by
  cases c with
  | create count => exact (makes_createMany client count).bind fun _ => .of_pure ()
  | search maxPrice minCores minGhz minRamGb =>
    exact (Makes.of_perform fun o s => sends_searchLaptops client o s _).bind fun _ => .of_pure ()
  | upload image =>
    have hupload : ∀ id, Makes w client.server 1 (do
        let file := (w.file image).map fun data => ⟨Bytes.ofText image, data⟩
        let _ ← perform w .callFailed fun o s => client.uploadImage o s id file) := fun id =>
      (Makes.of_perform fun o s => sends_uploadImage client o s id _).bind fun _ => .of_pure ()
    exact (makes_createOne client).bind hupload
  | rate count rounds =>
    exact (makes_createMany client count).bind fun ids => makes_rateOften client ids rounds

theorem makes_session {options : Options} {network : Network}
    (h : network.connect options.serverAddress = .ok server) :
    Makes w server (1 + options.command.calls) (options.run w network) := by
  unfold Options.run
  rw [h]
  refine Makes.bind (Makes.of_perform fun o s => ?_) fun shared => makes_run ⟨server, shared.token⟩ _
  exact sends_logIn ⟨server, ""⟩ o s options.username options.password

theorem run_of_not_connected {options : Options} {network : Network} {message : String} (v : Visit)
    (h : network.connect options.serverAddress = .error message) :
    options.run w network v = (.error (.notConnected message), v) := by
  unfold Options.run
  rw [h]
  rfl

/-- **Whatever is true in all states that the service can come to** is true after a command, carried
out or not, that begins in one of them. -/
theorem reaches_run {options : Options} {network : Network} {v : Visit} {first : State} {accepted : Nat}
    (h : network.connect options.serverAddress = .ok server)
    (hstart : server.Reaches first accepted v.state) :
    ∃ more, accepted ≤ more ∧ server.Reaches first more (options.run w network v).2.state := by
  obtain ⟨n, -, hcourse⟩ := (makes_session (w := w) h).most v
  exact hcourse.reaches hstart

end Showroom.CommandLine
