import AsmDiagnostics.Proofs.Pipeline.LocalLegs

/-!
# A document alone

An act for a document is an act of its share: the same call, or the leg of what stands at the same
place among what is the document's own.  An act for another document is not seen in the share.  Where
no other document has a share, each place is a place among what is the document's own.
-/

namespace AsmDiagnostics

variable {τ ω : Type}

namespace Stage

abbrev forTask (uri : Uri) (entry : Planned (Task τ)) : Bool := decide (entry.action.uri = uri)

abbrev forPause (uri : Uri) (pause : Pause τ) : Bool := decide (pause.run.uri = uri)

/-- The act where there is no other document; there is none if it is for another document, or for
nothing at all. -/
def only? (uri : Uri) (s : Stage τ ω) : Act τ ω → Option (Act τ ω)
  | .call call => if call.concerns uri then some (.call call) else none
  | .perform place =>
      match s.pipeline.agenda[place]? with
      | none => none
      | some entry =>
          if entry.action.uri = uri then
            some (.perform (rank (forTask uri) s.pipeline.agenda place))
          else none
  | .resume place =>
      match s.pauses[place]? with
      | none => none
      | some pause =>
          if pause.run.uri = uri then some (.resume (rank (forPause uri) s.pauses place)) else none
  | act => some act

/-- The build that an act starts for a document, as far as it matters: what it comes to, and how long
it takes. -/
def build? (outside : Outside ω) (uri : Uri) (s : Stage τ ω) : Act τ ω → Option (Build.Result × Nat)
  | .resume place =>
      match s.pauses[place]? with
      | none => none
      | some pause =>
          if pause.run.uri = uri then (Post.pause pause).build? outside s.world else none
  | _ => none

inductive Keeps (uri : Uri) (s : Stage τ ω) : Act τ ω → Act τ ω → Prop where
  | call {call : Call τ} (concerns : call.concerns uri = true) : Keeps uri s (.call call) (.call call)
  | wait (millis : Nat) : Keeps uri s (.wait millis) (.wait millis)
  | alter (world : ω) : Keeps uri s (.alter world) (.alter world)
  | perform {place : Nat} {entry : Planned (Task τ)}
      (found : s.pipeline.agenda[place]? = some entry) (own : entry.action.uri = uri) :
      Keeps uri s (.perform place) (.perform (rank (forTask uri) s.pipeline.agenda place))
  | resume {place : Nat} {pause : Pause τ} (found : s.pauses[place]? = some pause)
      (own : pause.run.uri = uri) :
      Keeps uri s (.resume place) (.resume (rank (forPause uri) s.pauses place))

inductive Drops (uri : Uri) (s : Stage τ ω) : Act τ ω → Prop where
  | call {call : Call τ} (apart : call.concerns uri = false) : Drops uri s (.call call)
  | noTask {place : Nat} (nothing : s.pipeline.agenda[place]? = none) : Drops uri s (.perform place)
  | perform {place : Nat} {entry : Planned (Task τ)}
      (found : s.pipeline.agenda[place]? = some entry) (other : entry.action.uri ≠ uri) :
      Drops uri s (.perform place)
  | noPause {place : Nat} (nothing : s.pauses[place]? = none) : Drops uri s (.resume place)
  | resume {place : Nat} {pause : Pause τ} (found : s.pauses[place]? = some pause)
      (other : pause.run.uri ≠ uri) : Drops uri s (.resume place)

section Cases

variable {uri : Uri} {s : Stage τ ω} {act own : Act τ ω}

theorem keeps_iff : s.only? uri act = some own ↔ s.Keeps uri act own := by
  constructor
  · intro kept
    cases act with
    | call call =>
        obtain ⟨concerns, same⟩ := Option.ite_none_right_eq_some.mp kept
        exact Option.some.inj same ▸ .call concerns
    | wait millis => exact Option.some.inj kept ▸ .wait millis
    | alter world => exact Option.some.inj kept ▸ .alter world
    | perform place =>
        dsimp only [only?] at kept
        split at kept
        · cases kept
        · rename_i entry found
          obtain ⟨own, same⟩ := Option.ite_none_right_eq_some.mp kept
          exact Option.some.inj same ▸ .perform found own
    | resume place =>
        dsimp only [only?] at kept
        split at kept
        · cases kept
        · rename_i pause found
          obtain ⟨own, same⟩ := Option.ite_none_right_eq_some.mp kept
          exact Option.some.inj same ▸ .resume found own
  · intro keeps
    cases keeps with
    | call concerns => exact if_pos concerns
    | wait millis => rfl
    | alter world => rfl
    | perform found own =>
        simp only [only?, found]
        exact if_pos own
    | resume found own =>
        simp only [only?, found]
        exact if_pos own

theorem drops_iff : s.only? uri act = none ↔ s.Drops uri act := by
  constructor
  · intro dropped
    cases act with
    | call call =>
        cases concerns : call.concerns uri with
        | false => exact .call concerns
        | true => simp [only?, concerns] at dropped
    | wait millis => cases dropped
    | alter world => cases dropped
    | perform place =>
        dsimp only [only?] at dropped
        split at dropped
        · exact .noTask ‹_›
        · rename_i entry found
          exact .perform found fun own => by simp [own] at dropped
    | resume place =>
        dsimp only [only?] at dropped
        split at dropped
        · exact .noPause ‹_›
        · rename_i pause found
          exact .resume found fun own => by simp [own] at dropped
  · intro drops
    cases drops with
    | call apart => simp [only?, apart]
    | noTask nothing => simp only [only?, nothing]
    | perform found other =>
        simp only [only?, found]
        exact if_neg other
    | noPause nothing => simp only [only?, nothing]
    | resume found other =>
        simp only [only?, found]
        exact if_neg other

end Cases

/-- What holds wherever some acts have led. -/
structure Sound (s : Stage τ ω) : Prop where
  numbers : s.pipeline.Numbers s.pauses
  live : ∀ pause ∈ s.pauses, s.pipeline.isSuperseded pause.run = false
  placed : ∀ pause ∈ s.pauses, (Post.pause pause).Placed s.pipeline.workspace?

section Shares

variable (outside : Outside ω) {uri : Uri} {s : Stage τ ω}

theorem share_become (uri : Uri) (world : ω) (p : Pipeline τ) (pauses : List (Pause τ)) :
    (become world p pauses).share outside uri =
      ((Stage.mk world p pauses).share outside uri).settle := by
  have localRuns : localRuns uri (p.inFlight.current? uri)
      (pauses.filter fun pause => !p.isSuperseded pause.run) =
        (localRuns uri (p.inFlight.current? uri) pauses).filter LocalRun.isLive := by
    refine filterMap_filter_seen fun pause _ localRun sees => ?_
    obtain ⟨own, rfl⟩ := Pause.localRun?_eq_some sees
    subst own
    rw [Pipeline.isSuperseded_eq p pause.run (Post.pause pause).nextLeg, Bool.not_not]
    rfl
  exact congrArg
    (fun runs => { (Stage.mk world p pauses).share outside uri with pauses := runs }) localRuns

/-- No run is aborted where none has been superseded that pauses. -/
theorem settle_share (uri : Uri)
    (live : ∀ pause ∈ s.pauses, s.pipeline.isSuperseded pause.run = false) :
    (s.share outside uri).settle = s.share outside uri := by
  have all : s.pauses.filter (fun pause => !s.pipeline.isSuperseded pause.run) = s.pauses :=
    List.filter_eq_self.mpr fun pause member => by rw [live pause member, Bool.not_false]
  have same := share_become outside uri s.world s.pipeline s.pauses
  rw [← same, become, all]

theorem share_walk {pauses : List (Pause τ)} {leg : Leg τ ω} {localLeg : LocalLeg τ}
    (shows : leg.Shows outside uri pauses localLeg) :
    (localEvents uri (walk pauses leg).1, (walk pauses leg).2.share outside uri) =
      Share.walk localLeg := by
  have told := shows.told
  have stage : (Stage.mk leg.world leg.pipeline (pauses ++ leg.pause?.toList)).share outside uri =
      { localLeg.share with pauses := localLeg.share.pauses ++ localLeg.pause?.toList } := by
    have localRuns :
        localRuns uri (leg.pipeline.inFlight.current? uri) (pauses ++ leg.pause?.toList) =
        (leg.share outside uri pauses).pauses ++ localLeg.pause?.toList := by
      rw [← shows.pause]
      exact List.filterMap_append
    rw [← shows.share, ← localRuns]
    rfl
  simp only [walk, Share.walk, share_become, stage, told]

/-- A leg of another document is not seen. -/
theorem walk_other (live : ∀ pause ∈ s.pauses, s.pipeline.isSuperseded pause.run = false)
    {p : Pipeline τ} {pauses : List (Pause τ)} {leg : Leg τ ω}
    (same : (Stage.mk s.world p pauses).share outside uri = s.share outside uri)
    (silent : localEvents uri leg.told = []) (passes : leg.Passes outside uri s.world p) :
    localEvents uri (walk pauses leg).1 = [] ∧
      (walk pauses leg).2.share outside uri = s.share outside uri := by
  have shows : leg.Shows outside uri pauses ⟨[], s.share outside uri, none⟩ := by
    refine ⟨silent, ?_, List.filterMap_eq_nil_iff.mpr fun pause member => ?_⟩
    · rw [← same]
      unfold Leg.share Stage.share
      dsimp only
      rw [passes.same.workspace?, passes.descriptor]
      exact passes.same.share _ _
    · exact if_neg (passes.paused pause (Option.mem_toList.mp member))
  have walked := share_walk outside shows
  simp only [Share.walk, Option.toList_none, List.append_nil] at walked
  obtain ⟨told, share⟩ := Prod.mk.inj walked
  exact ⟨told, share.trans (settle_share outside uri live)⟩

theorem localEvents_call (p : Pipeline τ) (call : Call τ) :
    localEvents uri (p.tellCall call) = [] := by
  cases call <;> rfl

/-- A call for the document. -/
theorem share_call (numbers : s.pipeline.Numbers s.pauses) {call : Call τ}
    (concerns : call.concerns uri = true) :
    (Stage.mk s.world (s.pipeline.obey call) s.pauses).share outside uri =
      (s.share outside uri).obey call := by
  unfold Stage.share
  dsimp only
  rw [Pipeline.obey_workspace?]
  cases call with
  | change other version =>
      obtain rfl := of_decide_eq_true concerns
      exact Pipeline.share_change _ _ numbers version
  | close other =>
      obtain rfl := of_decide_eq_true concerns
      exact Pipeline.share_close ..
  | push other =>
      obtain rfl := of_decide_eq_true concerns
      exact Pipeline.share_push _ _ numbers
  | pull other ticket =>
      obtain rfl := of_decide_eq_true concerns
      exact Pipeline.share_plan _ _ _ numbers.ordered 0 (.ask other ticket) rfl
  | shutdown => exact Pipeline.share_shutdown ..

/-- A call for another document. -/
theorem share_call_other {call : Call τ} (apart : call.concerns uri = false) :
    (Stage.mk s.world (s.pipeline.obey call) s.pauses).share outside uri = s.share outside uri := by
  unfold Stage.share
  dsimp only
  rw [Pipeline.obey_workspace?]
  exact (Pipeline.SameFor.obey s.pipeline apart).share _ _

section Perform

variable {place : Nat} {entry : Planned (Task τ)} (found : s.pipeline.agenda[place]? = some entry)

include found

/-- A task is taken off the agenda of its document. -/
theorem share_without (own : entry.action.uri = uri) :
    let inside := rank (forTask uri) s.pipeline.agenda place
    (s.share outside uri).tasks[inside]? = some ⟨entry.due,
        entry.action.localTask (s.pipeline.held? uri) (s.pipeline.inFlight.current? uri)⟩ ∧
      (Stage.mk s.world (s.without place) s.pauses).share outside uri =
        { s.share outside uri with tasks := (s.share outside uri).tasks.eraseIdx inside } := by
  intro inside
  have same (entry : Planned (Task τ)) : forTask uri entry =
      (entry.seen? (Task.localTask? uri (s.pipeline.held? uri)
        (s.pipeline.inFlight.current? uri))).isSome := by
    simp only [forTask, Planned.seen?, Task.localTask?]
    split <;> simp [*]
  have sees : entry.seen? (Task.localTask? uri (s.pipeline.held? uri)
      (s.pipeline.inFlight.current? uri)) = some ⟨entry.due,
        entry.action.localTask (s.pipeline.held? uri) (s.pipeline.inFlight.current? uri)⟩ := by
    rw [Planned.seen?, Task.localTask?_of_own own]
    rfl
  refine ⟨getElem?_rank same found sees, ?_⟩
  have erased := filterMap_eraseIdx_of_some same found sees
  exact congrArg (fun tasks => { s.share outside uri with tasks := tasks }) erased

/-- A task is taken off the agenda of another document. -/
theorem share_without_other (other : entry.action.uri ≠ uri) :
    (Stage.mk s.world (s.without place) s.pauses).share outside uri = s.share outside uri := by
  have unseen : entry.seen? (Task.localTask? uri (s.pipeline.held? uri)
      (s.pipeline.inFlight.current? uri)) = none := by
    rw [Planned.seen?, Task.localTask?_of_other other]
    rfl
  exact congrArg (fun tasks => { s.share outside uri with tasks := tasks })
    (filterMap_eraseIdx_of_none found unseen)

end Perform

section Resume

variable {place : Nat} {pause : Pause τ} (found : s.pauses[place]? = some pause)

include found

/-- A run of the document that pauses is to go on. -/
theorem share_resumed (own : pause.run.uri = uri) :
    let inside := rank (forPause uri) s.pauses place
    (s.share outside uri).pauses[inside]? =
        some ((Post.pause pause).localRun (s.pipeline.inFlight.current? uri)) ∧
      (Stage.mk s.world s.pipeline (s.pauses.eraseIdx place)).share outside uri =
        { s.share outside uri with pauses := (s.share outside uri).pauses.eraseIdx inside } := by
  intro inside
  have same (pause : Pause τ) : forPause uri pause =
      (pause.localRun? uri (s.pipeline.inFlight.current? uri)).isSome := by
    simp only [forPause, Pause.localRun?]
    split <;> simp [*]
  have sees : pause.localRun? uri (s.pipeline.inFlight.current? uri) =
      some ((Post.pause pause).localRun (s.pipeline.inFlight.current? uri)) := if_pos own
  refine ⟨getElem?_rank same found sees, ?_⟩
  exact congrArg (fun localRuns => { s.share outside uri with pauses := localRuns })
    (filterMap_eraseIdx_of_some same found sees)

/-- A run of another document that pauses is to go on. -/
theorem share_resumed_other (other : pause.run.uri ≠ uri) :
    (Stage.mk s.world s.pipeline (s.pauses.eraseIdx place)).share outside uri =
      s.share outside uri :=
  congrArg (fun localRuns => { s.share outside uri with pauses := localRuns })
    (filterMap_eraseIdx_of_none found (if_neg other))

end Resume

end Shares

/-! ## One act -/

section Acts

variable {outside : Outside ω} {uri : Uri} {s : Stage τ ω}

theorem Sound.without (sound : s.Sound) (place : Nat) : (s.without place).Numbers s.pauses := by
  have fewer : (s.without place).agenda.Sublist s.pipeline.agenda := List.eraseIdx_sublist ..
  exact ⟨sound.numbers.toNeat.of_sublist fewer rfl, fun post member =>
    sound.numbers.runs post (((fewer.filterMap _).append_right _).subset member)⟩

/-- What is done for a document is done by its share. -/
theorem act_own (sound : s.Sound) (spares : outside.Spares s.pipeline.workspace?)
    {act own : Act τ ω} (keeps : s.Keeps uri act own) (built : Build.Result × Nat)
    (comes : ∀ next ∈ s.build? outside uri act, next = built) :
    (localEvents uri (s.act outside act).1, (s.act outside act).2.share outside uri) =
      (s.share outside uri).act outside uri built own := by
  cases keeps with
  | call concerns =>
      have called := share_call outside sound.numbers concerns
      simp only [Stage.act, Share.act, localEvents_call, share_become, called]
  | wait millis => rfl
  | alter world => rfl
  | @perform place entry found own =>
      obtain ⟨there, without⟩ := share_without outside found own
      have shows := Pipeline.legOf_shows outside s.world (p := s.without place)
        (sound.without place) entry.action built
      rw [own, without] at shows
      simp only [Stage.act, Share.act, found, there]
      exact share_walk outside shows
  | @resume place pause found own =>
      obtain ⟨there, without⟩ := share_resumed outside found own
      have comes : ∀ next ∈ (Post.pause pause).build? outside s.world, next = built := by
        intro next member
        refine comes next ?_
        simpa [build?, found, own] using member
      have shows := Pipeline.leg_shows outside s.world (s.pauses.eraseIdx place) spares
        sound.numbers.ordered (.pause pause) (sound.placed pause (List.mem_of_getElem? found)) built
        comes
      rw [show (Post.pause pause).run.uri = uri from own, without] at shows
      simp only [Stage.act, Share.act, found, there]
      exact share_walk outside shows

/-- What is done for another document is not seen. -/
theorem act_other (sound : s.Sound) (spares : outside.Spares s.pipeline.workspace?)
    {act : Act τ ω} (drops : s.Drops uri act) :
    localEvents uri (s.act outside act).1 = [] ∧
      (s.act outside act).2.share outside uri = s.share outside uri := by
  cases drops with
  | call apart =>
      refine ⟨localEvents_call s.pipeline _, (share_become ..).trans ?_⟩
      rw [share_call_other outside apart]
      exact settle_share outside uri sound.live
  | noTask nothing => simp [Stage.act, nothing, localEvents]
  | @perform place entry found other =>
      simp only [Stage.act, found]
      exact walk_other outside sound.live (share_without_other outside found other)
        (Pipeline.legOf_localEvents outside s.world _ other)
        (Pipeline.legOf_passes outside s.world (p := s.without place) spares entry.action other)
  | noPause nothing => simp [Stage.act, nothing, localEvents]
  | @resume place pause found other =>
      simp only [Stage.act, found]
      exact walk_other outside sound.live (share_resumed_other outside found other)
        (localEvents_of_other (Pipeline.leg_isOf outside s.world s.pipeline (.pause pause)) other)
        (Pipeline.leg_passes outside s.world spares (.pause pause) other)

/-- That a build of the document starts is seen in its share. -/
theorem build?_isSome {act own : Act τ ω} (keeps : s.Keeps uri act own) :
    (s.build? outside uri act).isSome = (s.share outside uri).builds own := by
  cases keeps with
  | @resume place pause found own =>
      have there := (share_resumed outside found own).1
      simp only [build?, found, own, if_true, Share.builds, there]
      cases pause <;> rfl
  | _ => rfl

/-- No act for another document starts a build of the document. -/
theorem build?_of_other {act : Act τ ω} (drops : s.Drops uri act) :
    s.build? outside uri act = none := by
  cases drops with
  | noPause nothing => simp only [build?, nothing]
  | resume found other =>
      simp only [build?, found]
      exact if_neg other
  | _ => rfl

theorem neat_act (outside : Outside ω) (neat : s.pipeline.Neat) (act : Act τ ω) :
    (s.act outside act).2.pipeline.Neat := by
  cases act with
  | call call => exact neat.obey call
  | wait millis => exact neat.of_sublist (List.Sublist.refl _) rfl
  | alter world => exact neat
  | perform place =>
      rcases act_perform outside s place with nothing | ⟨entry, -, performed⟩
      · rw [nothing]
        exact neat
      · rw [performed]
        have fewer : (s.without place).Neat := neat.of_sublist (List.eraseIdx_sublist ..) rfl
        exact fewer.legOf outside s.world entry.action
  | resume place =>
      rcases act_resume outside s place with nothing | ⟨pause, -, resumed⟩
      · rw [nothing]
        exact neat
      · rw [resumed]
        exact neat.leg outside s.world (.pause pause)

/-- Wherever some acts lead, all numbers have been given and all runs have their places. -/
theorem sound_play (outside : Outside ω) (workspace? : Option Workspace) (window : Nat) (world : ω)
    (acts : List (Act τ ω)) :
    let played := (start workspace? window world : Stage τ ω).play outside acts
    played.2.pipeline.workspace? = workspace? ∧ played.2.Sound := by
  intro played
  obtain ⟨workspace, followed⟩ := followed outside workspace? window world acts
  have neat : played.2.pipeline.Neat :=
    play_keeps outside (fun _ s => s.pipeline.Neat) (fun _ _ act neat => neat_act outside neat act) []
      (s := start workspace? window world) ⟨List.Pairwise.nil, nofun⟩ acts
  have runs : ∀ post ∈ played.2.posts,
      post.run.generation ≤ played.2.pipeline.inFlight.lastGeneration := fun post member => by
    obtain ⟨time, begun⟩ := followed.known post member
    exact followed.numbered.bounded _ (generation_mem begun)
  have waits {pause : Pause τ} (member : pause ∈ played.2.pauses) : .pause pause ∈ played.2.posts :=
    List.mem_append_right _ (List.mem_map_of_mem member)
  refine ⟨workspace, ⟨neat, runs⟩, fun pause member => ?_, fun pause member => ?_⟩
  · exact (Bool.not_eq_true' _).mp (followed.live _ (waits member))
  · have fits := followed.fits _ (waits member)
    cases pause with
    | deliver run diagnostics => trivial
    | build run own document =>
        generalize trail _ _ = before at fits
        cases fits with
        | build found cleared =>
            obtain ⟨there, placed, found⟩ := Option.bind_eq_some_iff.mp found
            obtain ⟨_, -, same⟩ := Option.map_eq_some_iff.mp found
            change played.2.pipeline.workspace? = some own
            rw [workspace, placed, (Prod.mk.inj same).1]

end Acts

/-! ## No other document -/

def Lone (outside : Outside ω) (uri : Uri) (s : Stage τ ω) : Prop :=
  ∀ other, other ≠ uri →
    (s.share outside other).tasks = [] ∧ (s.share outside other).pauses = []

namespace Lone

variable {outside : Outside ω} {uri : Uri} {s : Stage τ ω} (lone : s.Lone outside uri)

include lone

theorem task {entry : Planned (Task τ)} (member : entry ∈ s.pipeline.agenda) :
    entry.action.uri = uri := by
  by_contra other
  have none : s.pipeline.tasksFor entry.action.uri = [] := (lone _ other).1
  have seen : ⟨entry.due, _⟩ ∈ s.pipeline.tasksFor entry.action.uri :=
    Agenda.mem_view.mpr ⟨entry, member, Task.localTask?_of_own rfl, rfl⟩
  rw [none] at seen
  cases seen

theorem pause {pause : Pause τ} (member : pause ∈ s.pauses) : pause.run.uri = uri := by
  by_contra other
  have seen : (Post.pause pause).localRun (s.pipeline.inFlight.current? pause.run.uri) ∈
      (s.share outside pause.run.uri).pauses := List.mem_filterMap.mpr ⟨pause, member, if_pos rfl⟩
  rw [(lone _ other).2] at seen
  cases seen

/-- Where no other document has a share, none gets one. -/
theorem act (sound : s.Sound) (spares : outside.Spares s.pipeline.workspace?) {act : Act τ ω}
    (calls : ∀ call, act = .call call → call.concerns uri = true) :
    (s.act outside act).2.Lone outside uri := by
  intro other apart
  have still (drops : s.Drops other act) :
      ((s.act outside act).2.share outside other).tasks = [] ∧
        ((s.act outside act).2.share outside other).pauses = [] := by
    rw [(act_other sound spares drops).2]
    exact lone other apart
  cases act with
  | call call =>
      cases call with
      | shutdown =>
          obtain ⟨tasks, pauses⟩ := lone other apart
          have concerns : s.Keeps other (.call .shutdown) (.call .shutdown) := .call rfl
          have stopped := act_own sound spares concerns (.nothing, 0) nofun
          rw [(Prod.mk.inj stopped).2]
          simp [Share.settle, Share.obey, Share.stop, Share.dropHeld, Share.dropCurrent,
            Share.abort, tasks, pauses]
      | _ =>
          obtain rfl := of_decide_eq_true (calls _ rfl)
          exact still (.call (by simp [Call.concerns, apart.symm]))
  | wait millis => exact lone other apart
  | alter world => exact lone other apart
  | perform place =>
      cases found : s.pipeline.agenda[place]? with
      | none => exact still (.noTask found)
      | some entry =>
          have own := lone.task (List.mem_of_getElem? found)
          exact still (.perform found fun same => apart (same.symm.trans own))
  | resume place =>
      cases found : s.pauses[place]? with
      | none => exact still (.noPause found)
      | some pause =>
          have own := lone.pause (List.mem_of_getElem? found)
          exact still (.resume found fun same => apart (same.symm.trans own))

variable {whole : Stage τ ω} (same : whole.share outside uri = s.share outside uri)

include same

/-- The place of a task of the document is its place here. -/
theorem perform {place : Nat} {entry : Planned (Task τ)}
    (found : whole.pipeline.agenda[place]? = some entry) (own : entry.action.uri = uri) :
    let inside := rank (forTask uri) whole.pipeline.agenda place
    ∃ other, s.pipeline.agenda[inside]? = some other ∧ other.due = entry.due ∧
      rank (forTask uri) s.pipeline.agenda inside = inside := by
  intro inside
  have there := (share_without outside found own).1
  rw [same] at there
  obtain ⟨other, foundHere, stays⟩ := rank_of_all
    (fun entry member => decide_eq_true (lone.task member)) there
  have here := (share_without outside foundHere (lone.task (List.mem_of_getElem? foundHere))).1
  rw [stays, there] at here
  exact ⟨other, foundHere, (Planned.mk.inj (Option.some.inj here)).1.symm, stays⟩

/-- An act without other documents is itself where there are none. -/
theorem keeps {act own : Act τ ω} (keeps : whole.Keeps uri act own) : s.Keeps uri own own := by
  cases keeps with
  | call concerns => exact .call concerns
  | wait millis => exact .wait millis
  | alter world => exact .alter world
  | perform found own =>
      obtain ⟨other, foundHere, -, stays⟩ := lone.perform same found own
      have here := Keeps.perform foundHere (lone.task (List.mem_of_getElem? foundHere))
      rwa [stays] at here
  | resume found own =>
      have there := (share_resumed outside found own).1
      rw [same] at there
      obtain ⟨other, foundHere, stays⟩ := rank_of_all
        (fun pause member => decide_eq_true (lone.pause member)) there
      have here := Keeps.resume foundHere (lone.pause (List.mem_of_getElem? foundHere))
      rwa [stays] at here

end Lone

end Stage

end AsmDiagnostics
