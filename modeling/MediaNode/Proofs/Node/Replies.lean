import MediaNode.Proofs.Node.Service

/-!
# Every request is answered once

The books that are right about every occasion are right about every history: the tickets that it
opened are those that it closed and those that are still pending, each of them once. And nothing
stays pending for want of an answer. A job that ends closes its ticket at once, or by the command
that it queues, as soon as the node has worked the queue off.
-/
namespace MediaNode.Service

section histories

variable {service : Service}

/-- A history that begins with an occasion opens what both open. -/
theorem opened_cons (service : Service) (occasion : Occasion) (later : List Occasion) :
    service.opened (occasion :: later) =
      (service.step occasion).opened.toList ++ (service.step occasion).service.opened later := by
  simp only [opened, outcomes, List.filterMap_cons]
  cases (service.step occasion).opened <;> rfl

/-- It also closes what both close. -/
theorem closed_cons (service : Service) (occasion : Occasion) (later : List Occasion) :
    service.closed (occasion :: later) =
      (service.step occasion).closed.toList ++ (service.step occasion).service.closed later := by
  simp only [closed, outcomes, List.filterMap_cons]
  cases (service.step occasion).closed <;> rfl

/-- At the start nothing is left. -/
theorem sound_start (settings : Settings) : (start settings).Sound where
  reached := ⟨settings, [], rfl⟩
  jobs := fun _ member => absurd member List.not_mem_nil
  queue := fun _ member => absurd member List.not_mem_nil

/-- All that is left after a history is left for the request of its ticket. -/
theorem Sound.after (sound : service.Sound) (history : List Occasion) :
    (service.after history).Sound := by
  induction history generalizing service with
  | nil => exact sound
  | cons occasion later inductionHypothesis =>
    exact inductionHypothesis (booked_step sound occasion).sound

/-- The tickets that a history closed, and those that are pending then, are those that were
pending, and those that it opened. -/
theorem balance_after (sound : service.Sound) (history : List Occasion) :
    ((service.closed history).map Prod.fst ++ (service.after history).pending).Perm
      (service.opened history ++ service.pending) := by
  induction history generalizing service with
  | nil => exact .refl _
  | cons occasion later inductionHypothesis =>
    have booked := booked_step sound occasion
    have onward := inductionHypothesis booked.sound
    have balance := booked.balance
    rw [closed_cons, opened_cons, List.map_append, ← Option.toList_map, List.append_assoc,
      List.append_assoc]
    generalize ((service.step occasion).closed.map Prod.fst).toList = closedNow,
      (service.step occasion).opened.toList = openedNow,
      (service.step occasion).service.pending = between at balance onward ⊢
    exact calc List.Perm _ (closedNow ++ (_ ++ between)) := onward.append_left closedNow
      List.Perm _ (_ ++ (closedNow ++ between)) := List.perm_append_comm_assoc ..
      List.Perm _ (_ ++ (openedNow ++ service.pending)) := balance.append_left _
      List.Perm _ (openedNow ++ (_ ++ service.pending)) := List.perm_append_comm_assoc ..

/-- The tickets of a history are numbered in their order. -/
theorem numbers_opened (sound : service.Sound) (history : List Occasion) :
    (service.opened history).map Ticket.number =
      List.range' service.count (service.opened history).length := by
  induction history generalizing service with
  | nil => rfl
  | cons occasion later inductionHypothesis =>
    have booked := booked_step sound occasion
    have onward := inductionHypothesis booked.sound
    rw [booked.count] at onward
    rw [opened_cons, List.map_append, onward]
    cases opened : (service.step occasion).opened with
    | none => simp
    | some ticket =>
      have first := booked.numbered ticket opened
      simp only [Option.toList_some, List.map_singleton, List.singleton_append, List.length_cons,
        List.length_nil, List.range'_succ, first, Nat.zero_add]

/-- Every response that closes a ticket has its id. -/
theorem id_of_closed (sound : service.Sound) (history : List Occasion) :
    ∀ entry ∈ service.closed history, entry.snd.id = entry.fst.id := by
  induction history generalizing service with
  | nil => exact fun entry member => nomatch member
  | cons occasion later inductionHypothesis =>
    have booked := booked_step sound occasion
    intro entry member
    rw [closed_cons] at member
    rcases List.mem_append.mp member with here | there
    · exact booked.own entry.fst entry.snd (Option.mem_toList.mp here)
    · exact inductionHypothesis booked.sound entry there

/-- Whatever is no application leaves the queue as the front of the new one. -/
theorem queue_step (service : Service) {occasion : Occasion} (other : occasion.isApplied = false) :
    ∃ more, (service.step occasion).service.queue = service.queue ++ more := by
  cases occasion with
  | happened moment direct => exact ⟨[], (List.append_nil _).symm⟩
  | queued command foreign => exact ⟨_, rfl⟩
  | applied around files => cases other
  | prepared place files =>
    simp only [step]
    split
    · exact ⟨_, rfl⟩
    · exact ⟨[], (List.append_nil _).symm⟩
  | failed place reason =>
    simp only [step]
    split <;> exact ⟨[], (List.append_nil _).symm⟩
  | uploaded place outcome =>
    simp only [step]
    split <;> exact ⟨[], (List.append_nil _).symm⟩

/-- Applying a command takes it out of the queue, and its ticket is closed with its response. -/
theorem step_applied {ticket : Option Ticket} {command : Command}
    {rest : List (Option Ticket × Command)} (queue : service.queue = (ticket, command) :: rest)
    (around : Surroundings) (files : FileTree) :
    (service.step (.applied around files)).service.queue = rest ∧
      (service.step (.applied around files)).closed =
        ticket.bind fun ticket => command.response?.map (ticket, ·) := by
  simp only [step, queue, and_self]

/-- A queued command with a ticket has a response. -/
theorem Queued.response? {ticket : Ticket} {command : Command}
    (queued : Queued (some ticket, command)) : ∃ response, command.response? = some response := by
  cases queued with
  | own held files => exact ⟨_, rfl⟩

/-- A ticket in the queue is closed once the commands before it and its own are applied,
whatever else happens in between. -/
theorem closed_of_queued (sound : service.Sound) {ticket : Ticket} {command : Command} {place : Nat}
    (waiting : service.queue[place]? = some (some ticket, command)) {later : List Occasion}
    (worked : place < later.countP Occasion.isApplied) :
    ticket ∈ (service.closed later).map Prod.fst := by
  -- with every command that is applied the ticket moves up one place, and it never falls back
  induction later generalizing service place with
  | nil => cases worked
  | cons occasion later inductionHypothesis =>
    have next := (booked_step sound occasion).sound
    rw [closed_cons, List.map_append]
    cases applied : occasion.isApplied with
    | false =>
      obtain ⟨more, queue⟩ := service.queue_step applied
      have inside := (List.getElem?_eq_some_iff.mp waiting).1
      have kept : (service.step occasion).service.queue[place]? = some (some ticket, command) := by
        rw [queue, List.getElem?_append_left inside, waiting]
      rw [List.countP_cons_of_neg (by simp [applied])] at worked
      exact List.mem_append_right _ (inductionHypothesis next kept worked)
    | true =>
      cases occasion with
      | applied around files =>
        cases queue : service.queue with
        | nil =>
          rw [queue] at waiting
          cases waiting
        | cons entry rest =>
          obtain ⟨left, closed⟩ := step_applied queue around files
          rw [queue] at waiting
          cases place with
          | zero =>
            obtain rfl := Option.some.inj waiting
            obtain ⟨response, told⟩ :=
              (sound.queue (some ticket, command) (queue ▸ List.mem_cons_self ..)).response?
            rw [closed, Option.bind_some, told]
            exact List.mem_append_left _ (List.mem_singleton_self ticket)
          | succ place =>
            have front : (service.step (.applied around files)).service.queue[place]? =
                some (some ticket, command) := by
              rw [left]
              exact waiting
            rw [List.countP_cons_of_pos rfl] at worked
            exact List.mem_append_right _
              (inductionHypothesis next front (Nat.lt_of_succ_lt_succ worked))
      | _ => cases applied

/-- So a job on directories that ends closes its ticket, once the queue was worked off. -/
theorem closed_of_prepared (sound : service.Sound) {place : Nat} {ticket : Ticket}
    {job : DirectoryJob} (found : service.jobs[place]? = some (some ticket, .directories job))
    (files : FileTree) {later : List Occasion}
    (worked : service.queue.length < later.countP Occasion.isApplied) :
    ticket ∈ (service.closed (.prepared place files :: later)).map Prod.fst := by
  have next := (booked_step sound (.prepared place files)).sound
  have queue : (service.step (.prepared place files)).service.queue =
      service.queue ++ [(some ticket, (Directories.run files job).snd)] := by
    simp only [step, found]
  have waiting : (service.step (.prepared place files)).service.queue[service.queue.length]? =
      some (some ticket, (Directories.run files job).snd) := by
    rw [queue, List.getElem?_concat_length]
  rw [closed_cons, List.map_append]
  exact List.mem_append_right _ (closed_of_queued next waiting worked)

/-- The reply about directories goes out when they are in use. -/
theorem root_of_closed (sound : service.Sound) {around : Surroundings} {files : FileTree}
    {ticket : Ticket} {response : Rpc.Response} {reports : List Json}
    (closed : (service.step (.applied around files)).closed = some (ticket, response))
    (told : response.result = some (.arr reports)) {report : Json} (listed : report ∈ reports)
    {site : SiteKind} {path : Path}
    (ready : Directories.reported site.directory report = some path) :
    ((service.step (.applied around files)).service.node.sites.get site).root = some path := by
  cases queue : service.queue with
  | nil => simp [step, queue] at closed
  | cons entry rest =>
    obtain ⟨carried, command⟩ := entry
    have queued := sound.queue (carried, command) (queue ▸ List.mem_cons_self ..)
    cases queued with
    | foreign other => simp [step, queue] at closed
    | @own own job held made =>
      cases held with
      | intro named back distinct =>
        obtain ⟨roots, made, command, used⟩ :=
          Directories.root_of_reported service.node distinct made
        rw [(step_applied queue around files).2, command] at closed
        simp only [step, queue, command]
        obtain ⟨-, rfl⟩ := Prod.mk.inj (Option.some.inj closed)
        obtain rfl := Json.arr.inj (Option.some.inj told)
        exact used report listed site path ready

/-- A request with an id of a registered session is answered at once, or one job is left for it,
and never both. -/
theorem accounted_request (sound : service.Sound) (around : Surroundings) (files : FileTree)
    {name : String} {request : Rpc.Request} {id : Rpc.Id}
    (registered : (service.node.session? name).isSome = true) (identified : request.id = some id)
    (direct : ∀ command, Event.heard name (.request request) ≠ .commanded command) :
    let outcome := service.step (.happened ⟨around, files, .heard name (.request request)⟩ direct)
    let ticket : Ticket := { number := service.count, name, id }
    let answer := (service.node.handle around files name request).snd
    outcome.opened = some ticket ∧
      ((∃ response, answer = some response ∧ response.id = id ∧
          outcome.closed = some (ticket, response) ∧ outcome.service.jobs = service.jobs) ∨
        (answer = none ∧ outcome.closed = none ∧ ∃ work : Work, work.id = id ∧
          work.channel = .session name ∧
          outcome.service.jobs = service.jobs ++ [(some ticket, work)])) := by
  let moment : Moment := ⟨around, files, .heard name (.request request)⟩
  have opened : service.ticket? moment.event = some { number := service.count, name, id } := by
    simp only [moment, ticket?, registered, identified, if_true, Option.map_some]
  have answer : service.response? moment = (service.node.handle around files name request).snd := rfl
  obtain ⟨effects, accounted, work, -⟩ := accounted_of_ticket sound opened
  rw [answer] at accounted
  simp only [step, moment, opened, work, answer, Option.bind_some, true_and]
  generalize (service.node.handle around files name request).snd = answer at accounted ⊢
  cases accounted with
  | @now _ response own quiet =>
    refine .inl ⟨response, rfl, own, rfl, ?_⟩
    rw [quiet.work, List.map_nil, List.append_nil]
  | @later job own back reachable distinct =>
    refine .inr ⟨rfl, rfl, job, own, back, ?_⟩
    rw [workOf_effect, List.map_singleton]

/-- Whatever a client says that is no request with an id is not answered. -/
theorem unanswered (service : Service) (around : Surroundings) (files : FileTree) (name : String)
    {message : Rpc.Message} (other : ∀ request, message = .request request → request.id = none)
    (direct : ∀ command, Event.heard name message ≠ .commanded command) :
    let outcome := service.step (.happened ⟨around, files, .heard name message⟩ direct)
    outcome.effects = [] ∧ outcome.opened = none ∧ outcome.closed = none ∧
      outcome.service.jobs = service.jobs := by
  cases message with
  | notification notification => exact ⟨rfl, rfl, rfl, List.append_nil _⟩
  | response response => exact ⟨rfl, rfl, rfl, List.append_nil _⟩
  | request request =>
    have anonymous := other request rfl
    have ignored : service.ticket? (.heard name (.request request)) = none := by
      simp [ticket?, anonymous]
    simp [step, Node.step, Node.receive, anonymous, ignored, workOf]

/-- That a service answers what it is asked, now and by what it left. -/
structure Answering (service : Service) : Prop where
  /-- Nothing but the response that closes a ticket is put on the channel of a session. -/
  sent : ∀ occasion, responsesOf (service.step occasion).effects =
    (service.step occasion).closed.toList.flatMap fun entry =>
      service.node.delivered entry.fst.name entry.snd
  /-- A request with an id of a registered session gets a response or leaves one job, not both. -/
  asked : ∀ around files name request id direct, (service.node.session? name).isSome = true →
    request.id = some id →
    let outcome := service.step (.happened ⟨around, files, .heard name (.request request)⟩ direct)
    let ticket : Ticket := { number := service.count, name, id }
    let answer := (service.node.handle around files name request).snd
    outcome.opened = some ticket ∧
      ((∃ response, answer = some response ∧ response.id = id ∧
          outcome.closed = some (ticket, response) ∧ outcome.service.jobs = service.jobs) ∨
        (answer = none ∧ outcome.closed = none ∧ ∃ work : Work, work.id = id ∧
          work.channel = .session name ∧
          outcome.service.jobs = service.jobs ++ [(some ticket, work)]))
  /-- What a client says besides is not answered. -/
  besides : ∀ around files name message direct,
    (∀ request, message = .request request → request.id = none) →
    let outcome := service.step (.happened ⟨around, files, .heard name message⟩ direct)
    outcome.effects = [] ∧ outcome.opened = none ∧ outcome.closed = none ∧
      outcome.service.jobs = service.jobs
  /-- Every job is left for the request of a ticket. -/
  held : ∀ entry ∈ service.jobs, Held entry
  /-- An upload that ends closes its ticket, -/
  uploaded : ∀ place ticket job, service.jobs[place]? = some (some ticket, .upload job) →
    ∀ outcome, (service.step (.uploaded place outcome)).closed =
      some (ticket, Upload.response job.id outcome)
  /-- so does work on directories that breaks down, -/
  failed : ∀ place ticket job, service.jobs[place]? = some (some ticket, .directories job) →
    ∀ reason, (service.step (.failed place reason)).closed =
      some (ticket, .failure job.id (Fault.io reason).toErrorObject)
  /-- and such work that ends closes it once the queue was worked off. -/
  prepared : ∀ place ticket job, service.jobs[place]? = some (some ticket, .directories job) →
    ∀ files later, service.queue.length < later.countP Occasion.isApplied →
      ticket ∈ (service.closed (.prepared place files :: later)).map Prod.fst
  /-- Then every directory of a site that the response calls ready is the root of the site. -/
  ready : ∀ around files ticket response reports,
    (service.step (.applied around files)).closed = some (ticket, response) →
    response.result = some (.arr reports) →
    ∀ report ∈ reports, ∀ (site : SiteKind) (path : Path),
      Directories.reported site.directory report = some path →
        ((service.step (.applied around files)).service.node.sites.get site).root = some path

/-- A service in which all that is left is left for a request answers what it is asked. -/
theorem Sound.answering (sound : service.Sound) : service.Answering where
  sent := fun occasion => (booked_step sound occasion).responses
  asked := fun around files _ _ _ direct registered identified =>
    accounted_request sound around files registered identified direct
  besides := fun around files name _ direct other =>
    service.unanswered around files name other direct
  held := sound.jobs
  uploaded := fun _ _ _ found _ => by simp only [step, found, finish, Option.map_some]
  failed := fun _ _ _ found _ => by simp only [step, found, finish, Option.map_some]
  prepared := fun _ _ _ found files _ worked => closed_of_prepared sound found files worked
  ready := fun _ _ _ _ _ closed told _ listed _ _ ready =>
    root_of_closed sound closed told listed ready

/-- In every history, the requests with ids that registered sessions made are answered once each.
No ticket is closed twice; those that are not closed are pending, each with one job or one queued
command. A ticket is closed by a response under its id. And the service goes on answering. -/
theorem answered_once (settings : Settings) (history : List Occasion) :
    let closed := (start settings).closed history
    let service := (start settings).after history
    (closed.map Prod.fst ++ service.pending).Perm ((start settings).opened history) ∧
      ((start settings).opened history).Nodup ∧
      (∀ entry ∈ closed, entry.snd.id = entry.fst.id) ∧ service.Answering := by
  intro closed service
  have sound := sound_start settings
  refine ⟨?_, ?_, id_of_closed sound history, (sound.after history).answering⟩
  · exact (balance_after sound history).trans (.of_eq (List.append_nil _))
  · refine List.Nodup.of_map Ticket.number ?_
    rw [numbers_opened sound history]
    exact List.nodup_range'

end histories

/-- The client of `relayHistory` makes a request. -/
def relayRequest (number : Nat) (method : Method) (members : List (String × Json)) : Occasion :=
  .happened ⟨default, .empty, .heard "c"
    (.request (.make method.name (some (.obj members)) (.number number)))⟩ fun _ => Event.noConfusion

/-- It connects, activates its session, and asks for a directory and for a file. -/
def relayOccasions : List Occasion :=
  [.happened ⟨default, .empty, .connected "c" ⟨.ipv4 0x7F000001, 4000⟩⟩ fun _ => Event.noConfusion,
    relayRequest 1 .activate [("license", .str "00000000000013888bdeae83a31fd33508df9c4b10dc0ed5")],
    relayRequest 7 .prepareService [("hls_directory", .str "/hls")],
    relayRequest 8 .getLogStream [("feedback_directory", .str "/f"), ("id", .str "s1"),
      ("path", .str "http://host/logs")]]

/-- Both are left to jobs. -/
theorem jobs_relayOccasions :
    ((start Node.relaySettings).after relayOccasions).jobs =
      [(some ⟨1, "c", .number 7⟩,
          .directories ⟨[("hls_directory", ⟨"/hls"⟩)], .session "c", .number 7⟩),
        (some ⟨2, "c", .number 8⟩,
          .upload ⟨⟨"/f/logs.txt"⟩,
            { scheme := "http", host := some (.domain "host"), segments := ["logs"] },
            .session "c", .number 8⟩)] := by
  decide +kernel

/-- The directory that a response calls ready for a site. -/
def readyFor (site : SiteKind) (response : Rpc.Response) : Option Path :=
  match response.result with
  | some (.arr reports) => reports.head?.bind (Directories.reported site.directory)
  | _ => none

/-- The upload ends with its answer. The work on the directory ends with a command, and once that is
applied the directory is in use. A third request is answered at once, and a notification is not. -/
theorem answered_once_channel :
    let service := (start Node.relaySettings).after relayOccasions
    let worked := (start Node.relaySettings).after (relayOccasions ++ [.prepared 0 .empty])
    (service.step (.uploaded 1 (.ok ()))).closed =
      some (⟨2, "c", .number 8⟩, .success (.number 8) (.obj [])) ∧
    ⟨1, "c", .number 7⟩ ∈
      (service.closed [.prepared 0 .empty, .applied default .empty]).map Prod.fst ∧
    ((worked.step (.applied default .empty)).service.node.sites.get .hls).root = some ⟨"/hls"⟩ ∧
    (service.step (relayRequest 9 .pingService [])).opened = some ⟨3, "c", .number 9⟩ ∧
    (service.step (.happened ⟨default, .empty, .heard "c" (.notification default)⟩
      fun _ => Event.noConfusion)).effects = [] := by
  obtain ⟨-, -, -, answering⟩ := answered_once Node.relaySettings relayOccasions
  obtain ⟨-, -, -, going⟩ :=
    answered_once Node.relaySettings (relayOccasions ++ [.prepared 0 .empty])
  have jobs := jobs_relayOccasions
  have queue : ((start Node.relaySettings).after relayOccasions).queue.length = 0 := by
    decide +kernel
  have count : ((start Node.relaySettings).after relayOccasions).count = 3 := by decide +kernel
  have registered : (((start Node.relaySettings).after relayOccasions).node.session? "c").isSome =
      true := by decide +kernel
  have ready : (((start Node.relaySettings).after (relayOccasions ++ [.prepared 0 .empty])).step
      (.applied default .empty)).closed.bind (readyFor .hls ∘ Prod.snd) = some ⟨"/hls"⟩ := by
    decide +kernel
  -- from here on the services themselves do not matter
  generalize (start Node.relaySettings).after relayOccasions = service,
    (start Node.relaySettings).after (relayOccasions ++ [.prepared 0 .empty]) = worked at *
  have preparing := congrArg (·[0]?) jobs
  have sending := congrArg (·[1]?) jobs
  have used : ((worked.step (.applied default .empty)).service.node.sites.get .hls).root =
      some ⟨"/hls"⟩ := by
    obtain ⟨⟨ticket, response⟩, closed, ready⟩ := Option.bind_eq_some_iff.mp ready
    simp only [Function.comp, readyFor] at ready
    split at ready
    · next reports told =>
      obtain ⟨report, first, reported⟩ := Option.bind_eq_some_iff.mp ready
      exact going.ready _ _ _ _ _ closed told report (List.mem_of_head? first) .hls _ reported
    · cases ready
  refine ⟨answering.uploaded 1 _ _ sending (.ok ()), answering.prepared 0 _ _ preparing .empty
    [.applied default .empty] (by rw [queue]; exact Nat.one_pos), used, ?_, ?_⟩
  · rw [← count]
    exact (answering.asked default .empty "c" (.make Method.pingService.name (some (.obj []))
      (.number 9)) (.number 9) (fun _ => Event.noConfusion) registered rfl).1
  · exact (answering.besides default .empty "c" _ _ fun _ => Rpc.Message.noConfusion).1

end MediaNode.Service
