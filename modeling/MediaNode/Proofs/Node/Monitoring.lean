import MediaNode.Proofs.Node.Replies

/-!
# Roots and monitored directories

A site keeps its root until another directory is made ready for it, whereas the directories that
old chunks are removed from are replaced by those of every preparation that is put to use. So after
a history each site has the root that was made ready for it last, and the monitored directories are
those that the last preparation made ready. A root that this preparation made ready is monitored; a
root that is left over from an earlier one need not be.
-/
namespace MediaNode

/-- The directory that is ready for a site. -/
def PreparedRoots.root (roots : PreparedRoots) : SiteKind → Option Path
  | .hls => roots.hls
  | .vod => roots.vods
  | .cod => roots.cods

/-- The directories of a request that are ready, when it is worked on with these files. -/
def Directories.ready (files : FileTree) (members : List (String × Json)) : List (String × Path) :=
  (prepareEach files (requested members)).snd.snd

/-- The directories that an event puts to use. -/
def Event.roots? : Event → Option PreparedRoots
  | .commanded (.preparedDirectories roots _ _) => some roots
  | _ => none

/-- Only the end of work on directories puts any to use. -/
theorem Event.roots?_eq_some {event : Event} {roots : PreparedRoots}
    (brought : event.roots? = some roots) :
    ∃ channel response, event = .commanded (.preparedDirectories roots channel response) := by
  unfold roots? at brought
  split at brought
  · next channel response =>
    cases brought
    exact ⟨channel, response, rfl⟩
  · cases brought

/-- That an event is the request to prepare the directories that some members name. -/
def Event.Prepares (event : Event) (members : List (String × Json)) : Prop :=
  ∃ name request, event = .heard name (.request request) ∧
    request.method = Method.prepareService.name ∧ request.params = some (.obj members)

namespace Directories

/-- Each site gets the directory that is ready under its name. -/
theorem root_rootsOf (ready : List (String × Path)) (site : SiteKind) :
    (rootsOf ready).root site = ready.lookup site.directory := by
  cases site <;> rfl

/-- A request makes no directory ready twice. -/
theorem ready_distinct (files : FileTree) (members : List (String × Json)) :
    ((ready files members).map Prod.fst).Nodup :=
  (requested_distinct members).sublist ((ready_sublist files (requested members)).map _)

/-- The directories that are monitored then are those of the sites and of the time shifts that are
ready. -/
theorem mem_monitored_iff {files : FileTree} {members : List (String × Json)} {path : Path} :
    path ∈ (rootsOf (ready files members)).monitored ↔
      ∃ name ∈ monitoredNames, (name, path) ∈ ready files members := by
  rw [rootsOf, List.mem_filterMap]
  constructor
  · rintro ⟨name, watched, found⟩
    obtain ⟨before, later, split, -⟩ := List.lookup_eq_some_iff.mp found
    exact ⟨name, watched, split ▸ List.mem_append_right before List.mem_cons_self⟩
  · rintro ⟨name, watched, listed⟩
    exact ⟨name, watched, lookup_of_mem (ready_distinct files members) listed⟩

end Directories

namespace Node

variable {node : Node}

/-- A command leaves the sites and what is monitored, unless it brings directories that are
ready. -/
theorem directories_apply (around : Surroundings) (files : FileTree) {command : Command}
    (other : (Event.commanded command).roots? = none) :
    (node.apply around files command).node.sites = node.sites ∧
      (node.apply around files command).node.monitored = node.monitored := by
  cases command with
  | startStream spec =>
    simp only [apply]
    rw [lazyStart_frame]
    exact ⟨rfl, rfl⟩
  | workerMessage id serial message =>
    simp only [apply, workerMessage]
    split <;> exact ⟨rfl, rfl⟩
  | workerExited id serial code signal =>
    simp only [apply, workerExited]
    split
    · exact ⟨rfl, rfl⟩
    · split
      · simp only
        rw [lazyStart_frame]
        exact ⟨rfl, rfl⟩
      · exact ⟨rfl, rfl⟩
  | preparedDirectories roots channel response => cases other
  | _ => exact ⟨rfl, rfl⟩

/-- So does everything else that happens to a node. -/
theorem directories_step {moment : Moment} (other : moment.event.roots? = none) :
    (node.step moment).node.sites = node.sites ∧
      (node.step moment).node.monitored = node.monitored := by
  obtain ⟨around, files, event⟩ := moment
  cases event with
  | connected name peer => exact ⟨rfl, rfl⟩
  | dropped name => exact ⟨rfl, rfl⟩
  | hungUp channel => exact ⟨rfl, rfl⟩
  | heard name message =>
    cases message with
    | notification notification => exact ⟨rfl, rfl⟩
    | response response =>
      simp only [step, receive, answered]
      split <;> exact ⟨rfl, rfl⟩
    | request request =>
      cases identified : request.id.isNone with
      | true => simp only [step, receive, identified, if_true, and_self]
      | false =>
        simp only [step]
        rw [(node.receive_request around files name identified).1, handle_frame]
        exact ⟨rfl, rfl⟩
  | commanded command => exact directories_apply around files other
  | due chore =>
    simp only [step]
    rw [doChore_frame]
    exact ⟨rfl, rfl⟩

/-- So at every moment the sites get the directories that are put to use, each one its own, and
these are monitored; without any, everything stays. -/
theorem directories_moment (moment : Moment) :
    (∀ site, ((node.step moment).node.sites.get site).root =
      (moment.event.roots?.bind (·.root site)).or (node.sites.get site).root) ∧
    (node.step moment).node.monitored =
      (moment.event.roots?.map PreparedRoots.monitored).getD node.monitored := by
  cases used : moment.event.roots? with
  | none =>
    obtain ⟨sites, monitored⟩ := @directories_step node moment used
    rw [sites, monitored]
    exact ⟨fun site => rfl, rfl⟩
  | some roots =>
    obtain ⟨around, files, event⟩ := moment
    obtain ⟨channel, response, rfl⟩ := Event.roots?_eq_some used
    exact ⟨fun site => by cases site <;> rfl, rfl⟩

/-- The work on directories that is left at a moment is on those that a request names then. -/
theorem prepare_of_step {trace : List Effect} (life : Worker.Lifecycle node.supervisor trace)
    {moment : Moment} {job : DirectoryJob} (left : .prepare job ∈ (node.step moment).effects) :
    ∃ members, moment.event.Prepares members ∧ job.requested = Directories.requested members := by
  obtain ⟨around, files, event⟩ := moment
  cases Node.sent_step life ⟨around, files, event⟩ left with
  | worker about => cases about
  | @deferred name request _ heard identified unanswered _ =>
    cases heard
    have handled : .prepare job ∈ (node.handle around files name request).fst.effects := by
      simp only [step, receive, identified, Bool.false_eq_true, if_false, unanswered] at left
      exact left
    unfold handle Request.dispatch at handled
    cases named : Method.ofName? request.method with
    | none => simp [named] at handled
    | some method =>
      cases passed : method.guard.check (node.session? name) with
      | error fault => simp [named, passed] at handled
      | ok =>
        simp only [named, passed] at handled
        rcases performed : Request.perform around node files name (answerId request) method
          request.params with ⟨turn, outcome⟩
        simp only [performed] at handled
        cases outcome with
        | error fault =>
          obtain ⟨made, rfl⟩ := Request.perform_eq_error performed
          cases handled
        | ok result =>
          obtain ⟨rfl, members, given, own⟩ :=
            Request.prepare_of_perform life performed handled
          refine ⟨members, ⟨name, request, rfl, (Method.name_of_ofName? named).symm, ?_⟩, own⟩
          obtain ⟨value, present, object⟩ := Option.bind_eq_some_iff.mp given
          rw [present]
          cases value <;> simp_all [Json.asObj]

end Node

/-- That an occasion is the request to prepare the directories that some members name. -/
def Occasion.Prepares (occasion : Occasion) (members : List (String × Json)) : Prop :=
  ∃ moment direct, occasion = .happened moment direct ∧ moment.event.Prepares members

namespace Service

variable {service : Service}

/-- The directories that an occasion puts to use. -/
def roots? (service : Service) : Occasion → Option PreparedRoots
  | .happened moment _ => moment.event.roots?
  | .applied _ _ => service.queue.head?.bind fun entry => (Event.commanded entry.snd).roots?
  | _ => none

/-- The directories that a history puts to use, preparation by preparation. -/
def used (service : Service) : List Occasion → List PreparedRoots
  | [] => []
  | occasion :: later =>
    (service.roots? occasion).toList ++ (service.step occasion).service.used later

/-- At every occasion the sites get the directories that are put to use, each one its own, and
these are monitored; without any, everything stays. -/
theorem directories_occasion (service : Service) (occasion : Occasion) :
    (∀ site, ((service.step occasion).service.node.sites.get site).root =
      ((service.roots? occasion).bind (·.root site)).or (service.node.sites.get site).root) ∧
    (service.step occasion).service.node.monitored =
      ((service.roots? occasion).map PreparedRoots.monitored).getD service.node.monitored := by
  cases occasion with
  | happened moment direct => exact service.node.directories_moment moment
  | queued command foreign => exact ⟨fun site => rfl, rfl⟩
  | applied around files =>
    simp only [step, roots?]
    cases queue : service.queue with
    | nil => exact ⟨fun site => rfl, rfl⟩
    | cons entry rest =>
      exact service.node.directories_moment ⟨around, files, .commanded entry.snd⟩
  | prepared place files =>
    simp only [step]
    split <;> exact ⟨fun site => rfl, rfl⟩
  | failed place reason =>
    simp only [step]
    split <;> exact ⟨fun site => rfl, rfl⟩
  | uploaded place outcome =>
    simp only [step]
    split <;> exact ⟨fun site => rfl, rfl⟩

/-- So after a history every site has the root that was put to use for it last, and what the last
preparation brought is monitored. -/
theorem directories_after (service : Service) (history : List Occasion) :
    (∀ site, ((service.after history).node.sites.get site).root =
      ((service.used history).filterMap (·.root site)).getLast?.or
        (service.node.sites.get site).root) ∧
    (service.after history).node.monitored =
      ((service.used history).getLast?.map PreparedRoots.monitored).getD service.node.monitored := by
  induction history generalizing service with
  | nil => exact ⟨fun site => rfl, rfl⟩
  | cons occasion later inductionHypothesis =>
    obtain ⟨roots, monitored⟩ := service.directories_occasion occasion
    obtain ⟨laterRoots, laterMonitored⟩ := inductionHypothesis (service.step occasion).service
    constructor
    · intro site
      rw [after, laterRoots, roots, used, List.filterMap_append, List.getLast?_append,
        Option.or_assoc]
      congr 2
      cases service.roots? occasion with
      | none => rfl
      | some put => cases own : put.root site <;> simp [own]
    · rw [after, laterMonitored, monitored, used, List.getLast?_append]
      cases ((service.step occasion).service.used later).getLast? with
      | some put => rfl
      | none => cases service.roots? occasion <;> rfl

/-- That all work on directories that is left, or that has ended, is on those that requests of a
certain kind name. -/
structure Drawn (Asked : List (String × Json) → Prop) (service : Service) : Prop where
  jobs : ∀ ticket job, (ticket, Work.directories job) ∈ service.jobs →
    ∃ members, Asked members ∧ job.requested = Directories.requested members
  queue : ∀ entry ∈ service.queue, ∀ roots, (Event.commanded entry.snd).roots? = some roots →
    ∃ members files, Asked members ∧ roots = Directories.rootsOf (Directories.ready files members)

section drawn

variable {Asked : List (String × Json) → Prop}

/-- At an occasion that makes such requests only, it stays so. -/
theorem Drawn.step (drawn : service.Drawn Asked) (sound : service.Sound) {occasion : Occasion}
    (asked : ∀ members, occasion.Prepares members → Asked members) :
    (service.step occasion).service.Drawn Asked := by
  obtain ⟨trace, life⟩ := sound.life
  -- ending a job leaves the others
  have ended (place : Nat) (ticket : Option Ticket) (job : DirectoryJob)
      (left : (ticket, Work.directories job) ∈ service.jobs.eraseIdx place) :
      ∃ members, Asked members ∧ job.requested = Directories.requested members :=
    drawn.jobs ticket job (List.mem_of_mem_eraseIdx left)
  -- whatever happens to the node leaves new jobs for requests only
  have grown (moment : Moment) (opened : Option Ticket)
      (named : ∀ members, moment.event.Prepares members → Asked members) (ticket : Option Ticket)
      (job : DirectoryJob) (left : (ticket, Work.directories job) ∈
        service.jobs ++ (workOf (service.node.step moment).effects).map (opened, ·)) :
      ∃ members, Asked members ∧ job.requested = Directories.requested members := by
    rcases List.mem_append.mp left with before | new
    · exact drawn.jobs ticket job before
    · obtain ⟨work, fresh, same⟩ := List.mem_map.mp new
      cases same
      obtain ⟨effect, wanted, made⟩ := List.mem_filterMap.mp fresh
      cases effect <;> cases made
      obtain ⟨members, prepares, own⟩ := Node.prepare_of_step life wanted
      exact ⟨members, named members prepares, own⟩
  cases occasion with
  | happened moment direct =>
    exact ⟨grown moment _ fun members prepares => asked members ⟨moment, direct, rfl, prepares⟩,
      drawn.queue⟩
  | queued command foreign =>
    refine ⟨drawn.jobs, fun entry member roots brought => ?_⟩
    rcases List.mem_append.mp member with before | new
    · exact drawn.queue entry before roots brought
    · rw [List.mem_singleton.mp new] at brought
      obtain ⟨channel, response, same⟩ := Event.roots?_eq_some brought
      exact absurd (Event.commanded.inj same) (foreign roots channel response)
  | applied around files =>
    simp only [Service.step]
    cases queue : service.queue with
    | nil => exact drawn
    | cons entry rest =>
      refine ⟨grown ⟨around, files, .commanded entry.snd⟩ none ?_, fun other member roots => ?_⟩
      · rintro members ⟨name, request, heard, -⟩
        cases heard
      · exact drawn.queue other (queue ▸ List.mem_cons_of_mem _ member) roots
  | prepared place files =>
    simp only [Service.step]
    split
    · next ticket job found =>
      refine ⟨ended place, fun entry member roots brought => ?_⟩
      rcases List.mem_append.mp member with before | new
      · exact drawn.queue entry before roots brought
      · obtain ⟨members, named, own⟩ := drawn.jobs ticket job (List.mem_of_getElem? found)
        rw [List.mem_singleton.mp new] at brought
        cases brought
        exact ⟨members, files, named, by rw [own]; rfl⟩
    · exact drawn
  | failed place reason =>
    simp only [Service.step]
    split
    · exact ⟨ended place, drawn.queue⟩
    · exact drawn
  | uploaded place outcome =>
    simp only [Service.step]
    split
    · exact ⟨ended place, drawn.queue⟩
    · exact drawn

/-- So whatever a history puts to use was made ready for one of its requests. -/
theorem Drawn.used (drawn : service.Drawn Asked) (sound : service.Sound) {history : List Occasion}
    (asked : ∀ occasion ∈ history, ∀ members, occasion.Prepares members → Asked members) :
    ∀ roots ∈ service.used history, ∃ members files, Asked members ∧
      roots = Directories.rootsOf (Directories.ready files members) := by
  induction history generalizing service with
  | nil => exact fun roots member => nomatch member
  | cons occasion later inductionHypothesis =>
    intro roots member
    rcases List.mem_append.mp member with now | onward
    · have put : service.roots? occasion = some roots := Option.mem_toList.mp now
      cases occasion with
      | happened moment direct =>
        obtain ⟨channel, response, commanded⟩ := Event.roots?_eq_some put
        exact absurd commanded (direct _)
      | applied around files =>
        obtain ⟨entry, first, brought⟩ := Option.bind_eq_some_iff.mp put
        exact drawn.queue entry (List.mem_of_head? first) roots brought
      | _ => cases put
    · have next := (booked_step sound occasion).sound
      have drawn := drawn.step sound (asked occasion List.mem_cons_self)
      exact inductionHypothesis drawn next
        (fun other member => asked other (List.mem_cons_of_mem _ member)) roots onward

end drawn

/-- From the start, the root of a site is the one that was put to use for it last. -/
theorem root_after (settings : Settings) (history : List Occasion) (site : SiteKind) :
    (((start settings).after history).node.sites.get site).root =
      (((start settings).used history).filterMap (·.root site)).getLast? := by
  have first : ((start settings).node.sites.get site).root = none := by cases site <;> rfl
  rw [((start settings).directories_after history).1 site, first, Option.or_none]

/-- What was put to use last is monitored, and so are the roots that it brought. -/
theorem served_of_last {settings : Settings} {history : List Occasion}
    {members : List (String × Json)} {files : FileTree}
    (last : ((start settings).used history).getLast? =
      some (Directories.rootsOf (Directories.ready files members))) :
    let node := ((start settings).after history).node
    (∀ path, path ∈ node.monitored ↔
      ∃ name ∈ Directories.monitoredNames, (name, path) ∈ Directories.ready files members) ∧
    ∀ site path, (site.directory, path) ∈ Directories.ready files members →
      (node.sites.get site).root = some path ∧ path ∈ node.monitored := by
  intro node
  have watched : node.monitored =
      (Directories.rootsOf (Directories.ready files members)).monitored := by
    rw [((start settings).directories_after history).2, last]
    rfl
  obtain ⟨earlier, all⟩ := List.getLast?_eq_some_iff.mp last
  refine ⟨fun path => by rw [watched, Directories.mem_monitored_iff], fun site path ready => ?_⟩
  have own : (Directories.rootsOf (Directories.ready files members)).root site = some path := by
    rw [Directories.root_rootsOf]
    exact Directories.lookup_of_mem (Directories.ready_distinct files members) ready
  constructor
  · rw [root_after, all, List.filterMap_append]
    simp [own]
  · rw [watched, Directories.mem_monitored_iff]
    exact ⟨site.directory, by cases site <;> decide, ready⟩

/-- After any history, the root of a site is the directory that was last made ready for it, and
monitored are those directories of the sites and of the time shifts that the last preparation made
ready. So a root that this preparation made ready is monitored. Every preparation is one that a
request of the history asked for, with those of its directories ready that could be made. -/
theorem monitored_of_last (settings : Settings) (history : List Occasion) :
    let used := (start settings).used history
    let node := ((start settings).after history).node
    (∀ roots ∈ used, ∃ members files, (∃ occasion ∈ history, occasion.Prepares members) ∧
      roots = Directories.rootsOf (Directories.ready files members)) ∧
    (∀ site, (node.sites.get site).root = (used.filterMap (·.root site)).getLast?) ∧
    (used = [] → node.monitored = []) ∧
    ∀ members files, used.getLast? = some (Directories.rootsOf (Directories.ready files members)) →
      (∀ path, path ∈ node.monitored ↔
        ∃ name ∈ Directories.monitoredNames, (name, path) ∈ Directories.ready files members) ∧
      ∀ site path, (site.directory, path) ∈ Directories.ready files members →
        (node.sites.get site).root = some path ∧ path ∈ node.monitored := by
  intro used node
  have drawn : (start settings).Drawn fun members =>
      ∃ occasion ∈ history, occasion.Prepares members := {
    jobs := fun _ _ member => absurd member List.not_mem_nil
    queue := fun _ member => absurd member List.not_mem_nil }
  refine ⟨?_, root_after settings history, ?_, ?_⟩
  · intro roots put
    exact drawn.used (sound_start settings)
      (fun occasion member members prepares => ⟨occasion, member, prepares⟩) roots put
  · intro unused
    rw [((start settings).directories_after history).2,
      show (start settings).used history = [] from unused]
    rfl
  · intro members files last
    exact served_of_last last

/-- A client that is connected and verified prepares the directories of the live streams and of the
library, and then that of the library alone. -/
def twicePrepared : List Occasion :=
  relayOccasions.take 2 ++
    [relayRequest 2 .prepareService
        [("hls_directory", .str "/live"), ("vods_directory", .str "/vods")],
      .prepared 0 .empty, .applied default .empty,
      relayRequest 3 .prepareService [("vods_directory", .str "/vods")],
      .prepared 0 .empty, .applied default .empty]

/-- Its library is served and monitored. -/
theorem monitored_of_last_library :
    let node := ((start Node.relaySettings).after twicePrepared).node
    (node.sites.get .vod).root = some ⟨"/vods"⟩ ∧ ⟨"/vods"⟩ ∈ node.monitored := by
  intro node
  obtain ⟨-, -, -, last⟩ := monitored_of_last Node.relaySettings twicePrepared
  obtain ⟨-, served⟩ := last [("vods_directory", .str "/vods")] .empty (by decide +kernel)
  exact served .vod ⟨"/vods"⟩ (by decide +kernel)

/-- The directory of its live streams is still served, but it is not monitored any more. -/
theorem served_unmonitored :
    ¬ ∀ (settings : Settings) (history : List Occasion) (site : SiteKind) (path : Path),
      (((start settings).after history).node.sites.get site).root = some path →
        path ∈ ((start settings).after history).node.monitored := by
  intro always
  have served : (((start Node.relaySettings).after twicePrepared).node.sites.get .hls).root =
      some ⟨"/live"⟩ := by decide +kernel
  have watched := always Node.relaySettings twicePrepared .hls ⟨"/live"⟩ served
  revert watched
  decide +kernel

end Service
end MediaNode
