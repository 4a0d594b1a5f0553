import Mathlib.Data.List.Perm.Basic
import MediaNode.Proofs.Node.Answers

/-!
# Requests, jobs and commands in any order

A node with the jobs that it left and the commands that are queued for it is a `Service`. What
can happen to it is an `Occasion`: something happens to the node, a command is queued or applied,
a job ends or breaks down. Every order of occasions is a history, so requests, jobs and commands
are interleaved at will.

Whoever reads a request with an id of a session gives it a ticket, and whatever is left for the
request carries the ticket. So the books are kept by tickets: at every occasion, the tickets that
are closed by a response and those that are pending are those that were pending before, and the
one that was opened. Hence no request is answered twice, and one that is not answered yet has one
job or one queued command left.
-/
namespace MediaNode

/-- A request that was read of a session, by how many were read before it. -/
structure Ticket where
  number : Nat
  name : String
  id : Rpc.Id
deriving DecidableEq, Repr, Inhabited

/-- A node, the jobs that it left and the commands that are queued for it. -/
structure Service where
  node : Node
  /-- How many requests were read. -/
  count : Nat := 0
  jobs : List (Option Ticket × Work) := []
  queue : List (Option Ticket × Command) := []

/-- Something that can happen to a service. -/
inductive Occasion where
  /-- Something happens to the node that is no command. -/
  | happened (moment : Moment) (direct : ∀ command, moment.event ≠ .commanded command)
  /-- Somebody else than a job queues a command. -/
  | queued (command : Command)
      (foreign : ∀ roots channel response, command ≠ .preparedDirectories roots channel response)
  /-- The node applies the first command of the queue. -/
  | applied (around : Surroundings) (files : FileTree)
  /-- A job on directories ends: its command is queued. -/
  | prepared (place : Nat) (files : FileTree)
  /-- A job on directories breaks down. -/
  | failed (place : Nat) (reason : String)
  /-- An upload ends. -/
  | uploaded (place : Nat) (outcome : Except Fault Unit)

/-- What an occasion leaves, the ticket that it opens, and the one that it closes with the
response. -/
structure Outcome where
  service : Service
  effects : List Effect := []
  opened : Option Ticket := none
  closed : Option (Ticket × Rpc.Response) := none

/-- The response that comes with a command. -/
def Command.response? : Command → Option Rpc.Response
  | .preparedDirectories _ _ response => some response
  | _ => none

/-- Whether the node applies a command. -/
def Occasion.isApplied : Occasion → Bool
  | .applied _ _ => true
  | _ => false

namespace Service

/-- A service of a node that nothing happened to. -/
def start (settings : Settings) : Service := { node := .ofSettings settings }

/-- The tickets that are not closed yet. -/
def pending (service : Service) : List Ticket :=
  service.jobs.filterMap Prod.fst ++ service.queue.filterMap Prod.fst

/-- The ticket for a request with an id of a registered session. -/
def ticket? (service : Service) : Event → Option Ticket
  | .heard name (.request request) =>
    if (service.node.session? name).isSome then
      request.id.map fun id => { number := service.count, name, id }
    else none
  | _ => none

/-- The response that a request gets at once. -/
def response? (service : Service) (moment : Moment) : Option Rpc.Response :=
  match moment.event with
  | .heard name (.request request) =>
    (service.node.handle moment.around moment.files name request).snd
  | _ => none

/-- A job ends with a response. -/
def finish (service : Service) (place : Nat) (ticket : Option Ticket) (channel : Channel)
    (response : Rpc.Response) : Outcome :=
  { service := { service with jobs := service.jobs.eraseIdx place }
    effects := service.node.outbox.send channel (.response response)
    closed := ticket.map (·, response) }

/-- Take what happens. -/
def step (service : Service) : Occasion → Outcome
  | .happened moment _ =>
    let turn := service.node.step moment
    let opened := service.ticket? moment.event
    { service :=
        { service with
          node := turn.node
          count := service.count + opened.toList.length
          jobs := service.jobs ++ (workOf turn.effects).map (opened, ·) }
      effects := turn.effects
      opened
      closed := opened.bind fun ticket => (service.response? moment).map (ticket, ·) }
  | .queued command _ => { service := { service with queue := service.queue ++ [(none, command)] } }
  | .applied around files =>
    match service.queue with
    | [] => { service }
    | (ticket, command) :: rest =>
      let turn := service.node.step ⟨around, files, .commanded command⟩
      { service :=
          { service with
            node := turn.node
            jobs := service.jobs ++ (workOf turn.effects).map (none, ·)
            queue := rest }
        effects := turn.effects
        closed := ticket.bind fun ticket => command.response?.map (ticket, ·) }
  | .prepared place files =>
    match service.jobs[place]? with
    | some (ticket, .directories job) =>
      { service :=
          { service with
            jobs := service.jobs.eraseIdx place
            queue := service.queue ++ [(ticket, (Directories.run files job).snd)] } }
    | _ => { service }
  | .failed place reason =>
    match service.jobs[place]? with
    | some (ticket, .directories job) =>
      service.finish place ticket job.channel
        (.failure job.id (Fault.io reason).toErrorObject)
    | _ => { service }
  | .uploaded place outcome =>
    match service.jobs[place]? with
    | some (ticket, .upload job) =>
      service.finish place ticket job.channel (Upload.response job.id outcome)
    | _ => { service }

/-- What the occasions of a history leave, one by one. -/
def outcomes (service : Service) : List Occasion → List Outcome
  | [] => []
  | occasion :: later =>
    let outcome := service.step occasion
    outcome :: outcome.service.outcomes later

/-- The service after a history. -/
def after (service : Service) : List Occasion → Service
  | [] => service
  | occasion :: later => (service.step occasion).service.after later

/-- The tickets that a history opens, in order. -/
def opened (service : Service) (history : List Occasion) : List Ticket :=
  (service.outcomes history).filterMap Outcome.opened

/-- The tickets that a history closes with their responses, in order. -/
def closed (service : Service) (history : List Occasion) : List (Ticket × Rpc.Response) :=
  (service.outcomes history).filterMap Outcome.closed

/-- A job that is left for the request of its ticket. -/
inductive Held : Option Ticket × Work → Prop where
  | intro {ticket : Ticket} {work : Work} (own : work.id = ticket.id)
      (back : work.channel = .session ticket.name) (distinct : work.Distinct) :
      Held (some ticket, work)

/-- A queued command: that of somebody else, or the one that such a job ended with. -/
inductive Queued : Option Ticket × Command → Prop where
  | foreign {command : Command}
      (other : ∀ roots channel response, command ≠ .preparedDirectories roots channel response) :
      Queued (none, command)
  | own {ticket : Ticket} {job : DirectoryJob} (held : Held (some ticket, .directories job))
      (files : FileTree) : Queued (some ticket, (Directories.run files job).snd)

/-- That all that is left is left for the request of its ticket. -/
structure Sound (service : Service) : Prop where
  reached : ∃ settings history, service.node = (Node.ofSettings settings).after history
  jobs : ∀ entry ∈ service.jobs, Held entry
  queue : ∀ entry ∈ service.queue, Queued entry

namespace Sound

variable {service : Service}

/-- The node has its sessions registered. -/
theorem registered (sound : service.Sound) : service.node.Registered := by
  obtain ⟨settings, history, reached⟩ := sound.reached
  exact reached ▸ Node.registered_after settings history

/-- Its workers live as in a run of their supervisor. -/
theorem life (sound : service.Sound) : ∃ trace, Worker.Lifecycle service.node.supervisor trace := by
  obtain ⟨settings, history, reached⟩ := sound.reached
  exact ⟨_, reached ▸ Node.after_lifecycle settings history⟩

/-- One moment later it is a node with a history again. -/
theorem reached_step (sound : service.Sound) (moment : Moment) :
    ∃ settings history,
      (service.node.step moment).node = (Node.ofSettings settings).after history := by
  obtain ⟨settings, history, reached⟩ := sound.reached
  exact ⟨settings, history ++ [moment], by rw [Node.after_append, ← reached]; rfl⟩

end Sound

/-- That the books are right about an occasion: the tickets that are closed or pending are those
that were pending and the one that was opened; the response to the one that is closed has its id,
and it is what sessions get. -/
structure Booked (service : Service) (outcome : Outcome) : Prop where
  sound : outcome.service.Sound
  balance : ((outcome.closed.map Prod.fst).toList ++ outcome.service.pending).Perm
    (outcome.opened.toList ++ service.pending)
  own : ∀ ticket response, outcome.closed = some (ticket, response) → response.id = ticket.id
  responses : responsesOf outcome.effects =
    outcome.closed.toList.flatMap fun entry => service.node.delivered entry.fst.name entry.snd
  numbered : ∀ ticket, outcome.opened = some ticket → ticket.number = service.count
  count : outcome.service.count = service.count + outcome.opened.toList.length

section booked

variable {service : Service}

/-- An occasion at which nothing happens. -/
theorem booked_idle (sound : service.Sound) : service.Booked { service } where
  sound
  balance := .refl _
  own := nofun
  responses := rfl
  numbered := nofun
  count := rfl

/-- Taking an entry out of a list leaves the others. -/
theorem perm_eraseIdx {α : Type} {entries : List α} {place : Nat} {entry : α}
    (found : entries[place]? = some entry) : entries.Perm (entry :: entries.eraseIdx place) := by
  obtain ⟨inside, rfl⟩ := List.getElem?_eq_some_iff.mp found
  exact (List.getElem_cons_eraseIdx_perm inside).symm

/-- A job that ends with a response closes the ticket of its request. -/
theorem booked_finish (sound : service.Sound) {place : Nat} {ticket : Option Ticket} {work : Work}
    (found : service.jobs[place]? = some (ticket, work)) {response : Rpc.Response}
    (own : response.id = work.id) :
    service.Booked (service.finish place ticket work.channel response) := by
  have left := perm_eraseIdx found
  cases sound.jobs _ (List.mem_of_getElem? found) with
  | @intro ticket _ named back distinct =>
    exact {
      sound :=
        { reached := sound.reached
          jobs := fun entry member => sound.jobs entry (List.mem_of_mem_eraseIdx member)
          queue := sound.queue }
      balance := ((left.filterMap Prod.fst).append_right _).symm
      own := by
        intro closed given same
        obtain ⟨rfl, rfl⟩ := Prod.mk.inj (Option.some.inj same)
        exact own.trans named
      responses := by
        simp only [finish, back, Node.responsesOf_send, Option.map_some, Option.toList_some,
          List.flatMap_singleton]
      numbered := nofun
      count := rfl }

/-- A job on directories that ends passes its ticket on to its command. -/
theorem booked_prepared (sound : service.Sound) (place : Nat) (files : FileTree) :
    service.Booked (service.step (.prepared place files)) := by
  simp only [step]
  split
  · next ticket job found =>
    have left := perm_eraseIdx found
    have held := sound.jobs _ (List.mem_of_getElem? found)
    cases ticket with
    | none => cases held
    | some ticket =>
      exact {
        sound :=
          { reached := sound.reached
            jobs := fun entry member => sound.jobs entry (List.mem_of_mem_eraseIdx member)
            queue := by
              intro entry member
              rcases List.mem_append.mp member with before | last
              · exact sound.queue entry before
              · rw [List.mem_singleton.mp last]
                exact .own held files }
        balance := by
          -- the ticket leaves its job for the end of the queue
          have passed : (pending { service with
              jobs := service.jobs.eraseIdx place
              queue := service.queue ++ [(some ticket, (Directories.run files job).snd)] }) =
              (service.jobs.eraseIdx place).filterMap Prod.fst ++
                service.queue.filterMap Prod.fst ++ [ticket] := by
            simp [pending]
          rw [passed]
          exact (List.perm_append_singleton ticket _).trans
            ((left.filterMap Prod.fst).append_right _).symm
        own := nofun
        responses := rfl
        numbered := nofun
        count := rfl }
  · exact booked_idle sound

/-- A command of somebody else that is queued has no ticket. -/
theorem booked_queued (sound : service.Sound) (command : Command)
    (foreign : ∀ roots channel response, command ≠ .preparedDirectories roots channel response) :
    service.Booked (service.step (.queued command foreign)) where
  sound :=
    { reached := sound.reached
      jobs := sound.jobs
      queue := by
        intro entry member
        rcases List.mem_append.mp member with before | last
        · exact sound.queue entry before
        · rw [List.mem_singleton.mp last]
          exact .foreign foreign }
  balance := by simp [step, pending]
  own := nofun
  responses := rfl
  numbered := nofun
  count := rfl

/-- The command of somebody else answers nobody. -/
theorem not_calling {command : Command}
    (foreign : ∀ roots channel response, command ≠ .preparedDirectories roots channel response) :
    ¬ (Event.commanded command).Calling := by
  cases command with
  | preparedDirectories roots channel response => exact absurd rfl (foreign roots channel response)
  | _ => exact not_false

/-- A command of somebody else closes nothing, and the one of a job closes its ticket. -/
theorem booked_applied (sound : service.Sound) (around : Surroundings) (files : FileTree) :
    service.Booked (service.step (.applied around files)) := by
  obtain ⟨trace, life⟩ := sound.life
  simp only [step]
  cases queue : service.queue with
  | nil => exact booked_idle sound
  | cons entry rest =>
    obtain ⟨ticket, command⟩ := entry
    have first := sound.queue (ticket, command) (queue ▸ List.mem_cons_self ..)
    have later : ∀ entry ∈ rest, Queued entry := fun entry member =>
      sound.queue entry (queue ▸ List.mem_cons_of_mem _ member)
    have reached := sound.reached_step ⟨around, files, .commanded command⟩
    cases first with
    | foreign other =>
      have quiet : Quiet (service.node.step ⟨around, files, .commanded command⟩).effects :=
        Node.quiet_step life (not_calling other)
      exact {
        sound := ⟨reached, by simpa [quiet.work] using sound.jobs, later⟩
        balance := by simp [pending, queue, quiet.work]
        own := nofun
        responses := quiet.responses
        numbered := nofun
        count := rfl }
    | @own ticket job held made =>
      cases held with
      | intro named back distinct =>
        obtain ⟨roots, reports, told, -⟩ := Directories.root_of_reported service.node distinct made
        rw [told] at reached ⊢
        change job.channel = .session ticket.name at back
        have idle : workOf (service.node.step ⟨around, files, .commanded
            (.preparedDirectories roots job.channel (.success job.id (.arr reports)))⟩).effects =
            [] := Node.workOf_send ..
        exact {
          sound := ⟨reached, by simpa [idle] using sound.jobs, later⟩
          balance := by
            simp only [pending, queue, idle, Option.bind_some, Command.response?, Option.map_some,
              Option.toList_some, Option.toList_none, List.map_nil, List.append_nil,
              List.filterMap_cons, List.nil_append, List.singleton_append]
            exact List.perm_middle.symm
          own := by
            intro closed given same
            obtain ⟨rfl, rfl⟩ := Prod.mk.inj (Option.some.inj same)
            exact named
          responses := by
            simp only [Node.step, Node.apply, back, Node.responsesOf_send, Option.bind_some,
              Command.response?, Option.map_some, Option.toList_some, List.flatMap_singleton]
          numbered := nofun
          count := rfl }

/-- What a ticket is opened for. -/
theorem ticket?_eq_some {event : Event} {ticket : Ticket}
    (opened : service.ticket? event = some ticket) :
    ∃ name request, event = .heard name (.request request) ∧
      (service.node.session? name).isSome = true ∧ request.id = some ticket.id ∧
      ticket.name = name ∧ ticket.number = service.count := by
  unfold ticket? at opened
  split at opened
  · next name request =>
    split at opened
    · next registered =>
      obtain ⟨id, identified, rfl⟩ := Option.map_eq_some_iff.mp opened
      exact ⟨name, request, rfl, registered, identified, rfl, rfl⟩
    · cases opened
  · cases opened

/-- A moment that opens a ticket is accounted for as a request of the ticket is. -/
theorem accounted_of_ticket (sound : service.Sound) {moment : Moment} {ticket : Ticket}
    (opened : service.ticket? moment.event = some ticket) :
    ∃ effects, Accounted service.node ticket.name ticket.id effects (service.response? moment) ∧
      workOf (service.node.step moment).effects = workOf effects ∧
      responsesOf (service.node.step moment).effects =
        (service.response? moment).toList.flatMap (service.node.delivered ticket.name) := by
  obtain ⟨trace, life⟩ := sound.life
  obtain ⟨around, files, event⟩ := moment
  obtain ⟨name, request, rfl, registered, identified, rfl, -⟩ := ticket?_eq_some opened
  have present : request.id.isNone = false := by rw [identified]; rfl
  have named : Node.answerId request = ticket.id := by rw [Node.answerId, identified]; rfl
  have accounted := service.node.handle_accounted life around files ticket.name request
  have answers := service.node.responsesOf_request life around files ticket.name present
  rw [named] at accounted
  rw [if_pos (sound.registered.known_iff.mpr registered)] at answers
  exact ⟨_, accounted, service.node.workOf_request around files ticket.name present, answers⟩

/-- A moment that opens no ticket answers nobody and leaves no job. -/
theorem quiet_of_no_ticket (sound : service.Sound) {moment : Moment}
    (direct : ∀ command, moment.event ≠ .commanded command)
    (unopened : service.ticket? moment.event = none) : Quiet (service.node.step moment).effects := by
  obtain ⟨trace, life⟩ := sound.life
  obtain ⟨around, files, event⟩ := moment
  by_cases calling : event.Calling
  · cases event with
    | heard name message =>
      cases message with
      | request request =>
        change request.id.isNone = false at calling
        obtain ⟨id, identified⟩ := Option.isSome_iff_exists.mp
          (Option.isNone_eq_false_iff.mp calling)
        have absent : service.node.senders.contains name = false := by
          rw [← Bool.not_eq_true, sound.registered.known_iff]
          intro registered
          simp [ticket?, registered, identified] at unopened
        have accounted := service.node.handle_accounted life around files name request
        have answers := service.node.responsesOf_request life around files name calling
        have work := service.node.workOf_request around files name calling
        rw [absent, if_neg Bool.false_ne_true] at answers
        refine ⟨answers, work.trans ?_⟩
        generalize (service.node.handle around files name request).fst.effects = effects,
          (service.node.handle around files name request).snd = answer at accounted
        cases accounted with
        | now own quiet => exact quiet.work
        | later own back known distinct => exact absurd (known.symm.trans absent) (by decide)
      | notification notification => exact calling.elim
      | response response => exact calling.elim
    | commanded command => exact absurd rfl (direct command)
    | _ => exact calling.elim
  · exact Node.quiet_step life calling

/-- Something that happens to the node opens a ticket at most, for a request with an id of a
registered session; and the ticket is closed at once, or one job is left with it. -/
theorem booked_happened (sound : service.Sound) (moment : Moment)
    (direct : ∀ command, moment.event ≠ .commanded command) :
    service.Booked (service.step (.happened moment direct)) := by
  have reached := sound.reached_step moment
  simp only [step]
  cases opened : service.ticket? moment.event with
  | none =>
    have quiet := quiet_of_no_ticket sound direct opened
    exact {
      sound := ⟨reached, by simpa [quiet.work] using sound.jobs, sound.queue⟩
      balance := by simp [pending, quiet.work]
      own := nofun
      responses := quiet.responses
      numbered := nofun
      count := rfl }
  | some ticket =>
    obtain ⟨-, -, -, -, -, -, numbered⟩ := ticket?_eq_some opened
    obtain ⟨effects, accounted, work, answers⟩ := accounted_of_ticket sound opened
    rw [work]
    generalize service.response? moment = answer at accounted answers ⊢
    cases accounted with
    | now own quiet =>
      exact {
        sound := ⟨reached, by simpa [quiet.work] using sound.jobs, sound.queue⟩
        balance := by simp [pending, quiet.work]
        own := by
          intro closed given same
          obtain ⟨rfl, rfl⟩ := Prod.mk.inj (Option.some.inj same)
          exact own
        responses := by
          simpa only [Option.bind_some, Option.map_some, Option.toList_some,
            List.flatMap_singleton] using answers
        numbered := by
          rintro _ ⟨⟩
          exact numbered
        count := rfl }
    | @later work own back reachable distinct =>
      exact {
        sound := by
          refine ⟨reached, fun entry member => ?_, sound.queue⟩
          rw [workOf_effect] at member
          rcases List.mem_append.mp member with before | last
          · exact sound.jobs entry before
          · rw [List.mem_singleton.mp last]
            exact .intro own back distinct
        balance := by simp [pending, workOf_effect]
        own := nofun
        responses := answers
        numbered := by
          rintro _ ⟨⟩
          exact numbered
        count := rfl }

/-- So the books are right about every occasion. -/
theorem booked_step (sound : service.Sound) (occasion : Occasion) :
    service.Booked (service.step occasion) := by
  cases occasion with
  | happened moment direct => exact booked_happened sound moment direct
  | queued command foreign => exact booked_queued sound command foreign
  | applied around files => exact booked_applied sound around files
  | prepared place files => exact booked_prepared sound place files
  | failed place reason =>
    simp only [step]
    split
    · next found => exact booked_finish sound found rfl
    · exact booked_idle sound
  | uploaded place outcome =>
    simp only [step]
    split
    · next found => exact booked_finish sound found (by cases outcome <;> rfl)
    · exact booked_idle sound

end booked

end Service
end MediaNode
