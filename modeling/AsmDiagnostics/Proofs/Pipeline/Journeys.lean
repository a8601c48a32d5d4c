import Mathlib.Data.List.Nodup
import AsmDiagnostics.Proofs.Pipeline.Journey
import AsmDiagnostics.Proofs.Pipeline.Passing

/-!
# Every run goes its way

In whatever order calls, legs, the clock and the world outside follow each other: what a run has done
is the first part of its journey.  A push that is disturbed does nothing any more; every other run
that waits nowhere has come to its end.
-/

namespace AsmDiagnostics

variable {τ ω : Type}

/-! ## Disturbances -/

/-- Something has come in the way of a run since it began: another trigger for its document, a close
of it, or the end of the session. -/
def Disturbed (run : Run τ) (history : List (Happening τ)) : Prop :=
  ∃ front time back, history = front ++ .begun time run :: back ∧
    ∃ happening ∈ back, happening.Disturbs run.uri

namespace Disturbed

variable {run : Run τ} {history others : List (Happening τ)}

theorem append (h : Disturbed run history) (others : List (Happening τ)) :
    Disturbed run (history ++ others) := by
  obtain ⟨front, time, back, rfl, happening, member, disturbs⟩ := h
  exact ⟨front, time, back ++ others, by simp, happening, List.mem_append_left _ member, disturbs⟩

theorem concat {time : Nat} (begun : .begun time run ∈ history) {happening : Happening τ}
    (disturbs : happening.Disturbs run.uri) : Disturbed run (history ++ [happening]) := by
  obtain ⟨front, back, rfl⟩ := List.append_of_mem begun
  exact ⟨front, time, back ++ [happening], by simp, happening, by simp, disturbs⟩

theorem begun (h : Disturbed run history) : ∃ time, .begun time run ∈ history := by
  obtain ⟨front, time, back, rfl, -⟩ := h
  exact ⟨time, by simp⟩

/-- What runs do disturbs nobody. -/
theorem of_append_quiet (quiet : ∀ happening ∈ others, happening.IsQuiet)
    (h : Disturbed run (history ++ others)) : Disturbed run history := by
  obtain ⟨front, time, back, same, happening, member, disturbs⟩ := h
  rcases List.append_eq_append_iff.mp same with ⟨more, -, rfl⟩ | ⟨more, rfl, behind⟩
  · exact (quiet (.begun time run) (by simp)).elim
  · cases more with
    | nil =>
        have begun : Happening.begun time run ∈ [] ++ others := behind ▸ List.mem_cons_self
        exact (quiet _ begun).elim
    | cons first more =>
        obtain ⟨rfl, rfl⟩ := List.cons.inj behind
        rcases List.mem_append.mp member with early | late
        · exact ⟨front, time, more, rfl, happening, early, disturbs⟩
        · exact absurd disturbs (Happening.not_disturbs_of_quiet (quiet happening late) run.uri)

/-- A run that was disturbed does not stand for its document. -/
theorem not_standing (increasing : (generations history).Pairwise (· < ·))
    (h : Disturbed run history) : standing run.uri history ≠ some run := by
  intro stands
  obtain ⟨front, time, back, rfl, happening, member, disturbs⟩ := h
  obtain ⟨before, start, after, same, -, quiet⟩ := standing_eq_some stands
  rw [generations_append, List.pairwise_append] at increasing
  obtain ⟨-, later, less⟩ := increasing
  have first : Happening.begun start run ∉ front := fun begun =>
    Nat.lt_irrefl _ (less _ (generation_mem begun) run.generation List.mem_cons_self)
  have last : Happening.begun start run ∉ back := fun begun =>
    Nat.lt_irrefl _ ((List.pairwise_cons.mp later).1 _ (generation_mem begun))
  obtain ⟨-, -, rfl⟩ := (List.append_cons_inj_of_notMem first last).mp same
  exact quiet happening member disturbs

end Disturbed

/-! ## All runs together -/

def InFlight.admits (f : InFlight) (run : Run τ) : Bool :=
  !(run.trigger.isPush && !f.isCurrent run.uri run.generation)

theorem InFlight.admits_iff {f : InFlight} {run : Run τ} :
    f.admits run = true ↔
      (run.trigger = .push → f.current? run.uri = some run.generation) := by
  cases trigger : run.trigger with
  | push => simp [admits, trigger, Trigger.isPush, isCurrent]
  | pull ticket => simp [admits, trigger, Trigger.isPush]

/-- All runs that have begun are on their way: those that wait have done what they should have done
by then, and the others have come to their end or were disturbed. -/
structure Followed (documented : Documented) (history : List (Happening τ)) (f : InFlight)
    (posts : List (Post τ)) : Prop where
  numbered : Numbered history f
  distinct : (posts.map fun post => post.run.generation).Nodup
  known : ∀ post ∈ posts, ∃ time, .begun time post.run ∈ history
  live : ∀ post ∈ posts, f.admits post.run = true
  own : ∀ happening ∈ history, ∀ run, happening.IsOf run → ∃ time, .begun time run ∈ history
  fits : ∀ post ∈ posts, post.Fits documented (trail post.run.generation history)
  away : ∀ time run, .begun time run ∈ history → run ∉ posts.map Post.run →
    Journey documented run (trail run.generation history) ∨
      run.trigger = .push ∧ Disturbed run history ∧
        Underway documented run (trail run.generation history)
  silent : ∀ before later run, history = before ++ later → run.trigger = .push →
    Disturbed run before → trail run.generation later = []

namespace Followed

variable {documented : Documented} {history : List (Happening τ)} {f g : InFlight}
  {posts kept : List (Post τ)}

theorem start : Followed documented ([] : List (Happening τ)) InFlight.empty [] where
  numbered := .nil
  distinct := List.nodup_nil
  known _ member := nomatch member
  live _ member := nomatch member
  own _ member := nomatch member
  fits _ member := nomatch member
  away _ _ member := nomatch member
  silent before later run same _ _ := by
    rw [(List.append_eq_nil_iff.mp same.symm).2]
    rfl

theorem idle (h : Followed documented history f posts) :
    Followed documented (history ++ []) f posts := by
  rwa [List.append_nil]

theorem perm (h : Followed documented history f posts) (same : posts.Perm kept) :
    Followed documented history f kept where
  numbered := h.numbered
  distinct := (same.map _).nodup_iff.mp h.distinct
  known post member := h.known post (same.mem_iff.mpr member)
  live post member := h.live post (same.mem_iff.mpr member)
  own := h.own
  fits post member := h.fits post (same.mem_iff.mpr member)
  away time run begun free :=
    h.away time run begun fun waits => free ((same.map _).mem_iff.mp waits)
  silent := h.silent

theorem generation_le (h : Followed documented history f posts) {post : Post τ}
    (member : post ∈ posts) : post.run.generation ≤ f.lastGeneration := by
  obtain ⟨time, begun⟩ := h.known post member
  exact h.numbered.bounded _ (generation_mem begun)

/-- A push that waits is the one that stands for its document. -/
theorem not_disturbed (h : Followed documented history f posts) {post : Post τ}
    (member : post ∈ posts) (pushed : post.run.trigger = .push) : ¬ Disturbed post.run history := by
  intro disturbed
  obtain ⟨time, begun⟩ := h.known post member
  exact disturbed.not_standing h.numbered.increasing
    (h.numbered.standing_of_current begun (InFlight.admits_iff.mp (h.live post member) pushed))

/-- A push that was disturbed is none of those that wait. -/
theorem generation_ne_of_disturbed (h : Followed documented history f posts) {post : Post τ}
    (member : post ∈ posts) {run : Run τ} (pushed : run.trigger = .push)
    (disturbed : Disturbed run history) : post.run.generation ≠ run.generation := by
  intro equal
  obtain ⟨start, begins⟩ := h.known post member
  obtain ⟨time, begun⟩ := disturbed.begun
  obtain rfl := begun_unique h.numbered.increasing begins begun equal
  exact h.not_disturbed member pushed disturbed

/-- No run has done anything yet under a new generation. -/
theorem trail_new (h : Followed documented history f posts) {generation : Nat}
    (new : f.lastGeneration < generation) : trail generation history = [] := by
  refine List.filter_eq_nil_iff.mpr fun happening member does => ?_
  have bounded (run : Run τ) (own : happening.IsOf run) : generation ≠ run.generation := by
    obtain ⟨time, begun⟩ := h.own happening member run own
    have bound := h.numbered.bounded _ (generation_mem begun)
    omega
  cases happening with
  | started run result => exact bounded run rfl (of_decide_eq_true does).symm
  | seen event => exact bounded event.run rfl (of_decide_eq_true does).symm
  | _ => cases does

/-- A run that waits nowhere stays where it is when others do something. -/
theorem away_append (h : Followed documented history f posts) {others : List (Happening τ)}
    {time : Nat} {run : Run τ} (begun : .begun time run ∈ history)
    (free : run ∉ posts.map Post.run)
    (still : trail run.generation (history ++ others) = trail run.generation history) :
    Journey documented run (trail run.generation (history ++ others)) ∨
      run.trigger = .push ∧ Disturbed run (history ++ others) ∧
        Underway documented run (trail run.generation (history ++ others)) := by
  rw [still]
  rcases h.away time run begun free with whole | ⟨pushed, disturbed, underway⟩
  · exact .inl whole
  · exact .inr ⟨pushed, disturbed.append _, underway⟩

end Followed

/-! ## Disturbances and legs -/

namespace Happening

def fresh : Happening τ → List (Post τ)
  | .begun _ run => [.start run]
  | _ => []

variable {happening : Happening τ}

theorem begun_of_fresh {post : Post τ} (member : post ∈ happening.fresh) :
    ∃ time run, happening = .begun time run ∧ post = .start run := by
  cases happening with
  | begun time run => exact ⟨time, run, rfl, List.mem_singleton.mp member⟩
  | _ => cases member

theorem fresh_nodup (happening : Happening τ) :
    (happening.fresh.map fun post => post.run.generation).Nodup := by
  cases happening with
  | begun time run => exact List.pairwise_singleton _ run.generation
  | _ => exact List.nodup_nil

/-- Where a run only does something, none begins. -/
theorem begun_of_append {history told : List (Happening τ)} {run other : Run τ} {time : Nat}
    (own : ∀ happening ∈ told, happening.IsOf run) (member : .begun time other ∈ history ++ told) :
    .begun time other ∈ history := by
  rcases List.mem_append.mp member with old | new
  · exact old
  · exact (own _ new).elim

end Happening

namespace Followed

variable {documented : Documented} {history told : List (Happening τ)} {f g : InFlight}
  {posts kept rest : List (Post τ)} {post : Post τ} {happening : Happening τ}

/-- A push that does not stand for its document any more after a happening was disturbed by it. -/
theorem disturbs_of_not_admits (h : Followed documented history f posts)
    (frame : ∀ uri, ¬ happening.Disturbs uri → g.current? uri = f.current? uri)
    (member : post ∈ posts) (gone : ¬ g.admits post.run = true) :
    post.run.trigger = .push ∧ happening.Disturbs post.run.uri := by
  have before := InFlight.admits_iff.mp (h.live post member)
  simp only [InFlight.admits_iff, Classical.not_imp] at gone
  obtain ⟨pushed, other⟩ := gone
  refine ⟨pushed, ?_⟩
  by_contra undisturbed
  exact other ((frame _ undisturbed).trans (before pushed))

theorem silent_concat (h : Followed documented history f posts) (loud : ¬ happening.IsQuiet)
    {before later : List (Happening τ)} {run : Run τ}
    (same : history ++ [happening] = before ++ later) (pushed : run.trigger = .push)
    (disturbed : Disturbed run before) : trail run.generation later = [] := by
  rcases List.eq_nil_or_concat' later with rfl | ⟨more, last, rfl⟩
  · rfl
  · rw [← List.append_assoc] at same
    obtain ⟨rfl, ended⟩ := List.append_inj' same rfl
    obtain rfl := List.singleton_inj.mp ended
    rw [trail_concat_loud loud]
    exact h.silent before more run rfl pushed disturbed

/-- A trigger, a close or the end of the session: the pushes in whose way it comes do not go on. -/
theorem disturb (h : Followed documented history f posts)
    (numbered : Numbered (history ++ [happening]) g) (loud : ¬ happening.IsQuiet)
    (frame : ∀ uri, ¬ happening.Disturbs uri → g.current? uri = f.current? uri)
    (new : ∀ time run, happening = .begun time run →
      g.admits run = true ∧ f.lastGeneration < run.generation)
    (fewer : kept.Sublist posts) (admitted : ∀ post ∈ posts, post ∈ kept ↔ g.admits post.run = true) :
    Followed documented (history ++ [happening]) g (kept ++ happening.fresh) where
  numbered := numbered
  distinct := by
    rw [List.map_append, List.nodup_append]
    refine ⟨h.distinct.sublist (fewer.map _), happening.fresh_nodup, ?_⟩
    intro generation old other young
    obtain ⟨before, waits, rfl⟩ := List.mem_map.mp old
    obtain ⟨after, starts, rfl⟩ := List.mem_map.mp young
    obtain ⟨time, run, begins, rfl⟩ := Happening.begun_of_fresh starts
    exact Nat.ne_of_lt (Nat.lt_of_le_of_lt (h.generation_le (fewer.subset waits))
      (new time run begins).2)
  known post member := by
    rcases List.mem_append.mp member with old | young
    · obtain ⟨time, begun⟩ := h.known post (fewer.subset old)
      exact ⟨time, List.mem_append_left _ begun⟩
    · obtain ⟨time, run, rfl, rfl⟩ := Happening.begun_of_fresh young
      exact ⟨time, by simp [Post.run]⟩
  live post member := by
    rcases List.mem_append.mp member with old | young
    · exact (admitted post (fewer.subset old)).mp old
    · obtain ⟨time, run, begins, rfl⟩ := Happening.begun_of_fresh young
      exact (new time run begins).1
  own other member run own := by
    rcases List.mem_append.mp member with old | last
    · obtain ⟨time, begun⟩ := h.own other old run own
      exact ⟨time, List.mem_append_left _ begun⟩
    · obtain rfl := List.mem_singleton.mp last
      exact absurd own.isQuiet loud
  fits post member := by
    rw [trail_concat_loud loud]
    rcases List.mem_append.mp member with old | young
    · exact h.fits post (fewer.subset old)
    · obtain ⟨time, run, begins, rfl⟩ := Happening.begun_of_fresh young
      have nothing := h.trail_new (new time run begins).2
      exact nothing ▸ .start run
  away time run begun free := by
    have still : trail run.generation (history ++ [happening]) = trail run.generation history :=
      trail_concat_loud loud _
    rcases List.mem_append.mp begun with old | last
    · by_cases waits : run ∈ posts.map Post.run
      · obtain ⟨post, member, rfl⟩ := List.mem_map.mp waits
        -- the run has waited until now, so it is this that comes in its way
        obtain ⟨pushed, disturbs⟩ := h.disturbs_of_not_admits frame member fun stays =>
          free (List.mem_map_of_mem (List.mem_append_left _ ((admitted post member).mpr stays)))
        exact .inr ⟨pushed, .concat old disturbs, still ▸ (h.fits post member).underway⟩
      · exact h.away_append old waits still
    · obtain rfl := List.mem_singleton.mp last
      exact absurd (List.mem_map_of_mem (List.mem_append_right _ (List.mem_singleton_self _))) free
  silent _ _ _ := h.silent_concat loud

section Walk

variable (h : Followed documented history f (post :: rest))
  (own : ∀ happening ∈ told, happening.IsOf post.run)

include h

theorem apart {other : Post τ} (member : other ∈ rest) :
    post.run.generation ≠ other.run.generation := by
  obtain ⟨alone, -⟩ : post.run.generation ∉ (rest.map fun post => post.run.generation) ∧
      (rest.map fun post => post.run.generation).Nodup := List.nodup_cons.mp h.distinct
  exact fun equal =>
    alone (equal.symm ▸ List.mem_map_of_mem (f := fun post => post.run.generation) member)

include own

theorem silent_append {before later : List (Happening τ)} {run : Run τ}
    (same : history ++ told = before ++ later) (pushed : run.trigger = .push)
    (disturbed : Disturbed run before) : trail run.generation later = [] := by
  rcases List.append_eq_append_iff.mp same with ⟨more, rfl, rfl⟩ | ⟨more, rfl, rfl⟩
  · have earlier := disturbed.of_append_quiet fun happening member =>
      (own happening (List.mem_append_left _ member)).isQuiet
    exact trail_other (fun happening member => own happening (List.mem_append_right _ member))
      (h.generation_ne_of_disturbed List.mem_cons_self pushed earlier)
  · rw [trail_append_other own
      (h.generation_ne_of_disturbed List.mem_cons_self pushed (disturbed.append _))]
    exact h.silent before more run rfl pushed disturbed

/-- A run that waits does something: it waits somewhere else then, or it has come to its end. -/
theorem walk (numbered : Numbered (history ++ told) g) (next? : Option (Post τ))
    (same : ∀ next ∈ next?, next.run = post.run)
    (fits : ∀ next ∈ next?,
      next.Fits documented (trail post.run.generation history ++ told))
    (ends : next? = none → Journey documented post.run (trail post.run.generation history ++ told))
    (live : ∀ other ∈ next?.toList ++ rest, g.admits other.run = true) :
    Followed documented (history ++ told) g (next?.toList ++ rest) where
  numbered := numbered
  distinct := by
    cases next? with
    | none => exact (List.nodup_cons.mp h.distinct).2
    | some next =>
        have whole : (post.run.generation :: rest.map fun post => post.run.generation).Nodup :=
          h.distinct
        rwa [← same next rfl] at whole
  known waits member := by
    have known : ∃ time, .begun time waits.run ∈ history := by
      rcases List.mem_append.mp member with new | old
      · exact same waits (Option.mem_toList.mp new) ▸ h.known post List.mem_cons_self
      · exact h.known waits (List.mem_cons_of_mem _ old)
    exact known.imp fun time begun => List.mem_append_left _ begun
  live := live
  own happening member run does := by
    have known : ∃ time, .begun time run ∈ history := by
      rcases List.mem_append.mp member with old | new
      · exact h.own happening old run does
      · exact does.unique (own happening new) ▸ h.known post List.mem_cons_self
    exact known.imp fun time begun => List.mem_append_left _ begun
  fits waits member := by
    rcases List.mem_append.mp member with new | old
    · rw [same waits (Option.mem_toList.mp new), trail_append_own own]
      exact fits waits (Option.mem_toList.mp new)
    · rw [trail_append_other own (h.apart old)]
      exact h.fits waits (List.mem_cons_of_mem _ old)
  away time run member free := by
    have old := Happening.begun_of_append own member
    by_cases itself : post.run = run
    · subst itself
      cases next? with
      | none => exact .inl (trail_append_own own ▸ ends rfl)
      | some next => exact (free (by simp [same next rfl])).elim
    · obtain ⟨start, begins⟩ := h.known post List.mem_cons_self
      have different : post.run.generation ≠ run.generation := fun equal =>
        itself (begun_unique h.numbered.increasing begins old equal)
      refine h.away_append old ?_ (trail_append_other own different)
      rw [List.map_cons, List.mem_cons, not_or]
      refine ⟨Ne.symm itself, fun waits => free ?_⟩
      rw [List.map_append]
      exact List.mem_append_right _ waits
  silent _ _ _ := h.silent_append own

end Walk

end Followed

/-! ## Acts -/

theorem InFlight.admits_eq (p : Pipeline τ) (run : Run τ) :
    p.inFlight.admits run = !p.isSuperseded run := rfl

theorem Task.post?_run (task : Task τ) : task.post?.map Post.run = task.run? := by
  cases task <;> rfl

namespace Pipeline

variable {p : Pipeline τ}

theorem mem_posts {post : Post τ} :
    post ∈ p.posts ↔ ∃ entry ∈ p.agenda, entry.action.post? = some post := List.mem_filterMap

/-- The runs of all tasks on the agenda stand for their documents. -/
def Live (p : Pipeline τ) : Prop := ∀ post ∈ p.posts, p.inFlight.admits post.run = true

theorem Live.admits (live : p.Live) {entry : Planned (Task τ)} (member : entry ∈ p.agenda)
    {run : Run τ} (own : entry.action.run? = some run) : p.inFlight.admits run = true := by
  rw [← Task.post?_run, Option.map_eq_some_iff] at own
  obtain ⟨post, waits, rfl⟩ := own
  exact live post (mem_posts.mpr ⟨entry, member, waits⟩)

/-- The tasks that stay on the agenda are those of runs that still stand for their documents. -/
def Keeps (p rest : Pipeline τ) : Prop :=
  rest.agenda.Sublist p.agenda ∧ ∀ entry ∈ p.agenda, entry ∈ rest.agenda ↔
    ∀ run, entry.action.run? = some run → rest.inFlight.admits run = true

/-- Of what waits, just the push that stood for a document goes when another run stands for it then,
or none. -/
theorem keeps_aborted (live : p.Live) {uri : Uri} {rest : Pipeline τ}
    (agenda : rest.agenda = (p.abortPush uri).agenda)
    (apart : ∀ other, other ≠ uri → rest.inFlight.current? other = p.inFlight.current? other)
    (gone : ∀ post ∈ p.posts, rest.inFlight.current? uri ≠ some post.run.generation) :
    p.Keeps rest := by
  refine ⟨agenda ▸ abortPush_sublist p uri, fun entry member => ?_⟩
  rw [agenda, mem_abortPush, and_iff_right member]
  constructor
  · intro stays run own
    rw [InFlight.admits_iff]
    intro pushed
    have current := InFlight.admits_iff.mp (live.admits member own) pushed
    rw [apart]
    · exact current
    · rintro rfl
      apply stays _ current
      rw [own, ← pushed]
  · intro admitted generation _ own
    have now := InFlight.admits_iff.mp (admitted _ own) rfl
    rw [← Task.post?_run, Option.map_eq_some_iff] at own
    obtain ⟨post, waits, same⟩ := own
    refine gone post (mem_posts.mpr ⟨entry, member, waits⟩) ?_
    rw [now, same]

theorem keeps_begin (live : p.Live)
    (bounded : ∀ post ∈ p.posts, post.run.generation ≤ p.inFlight.lastGeneration) (uri : Uri)
    (trigger : Trigger τ) : p.Keeps (p.begin uri trigger).2 := by
  refine keeps_aborted live rfl (fun other apart => ?_) fun post waits new => ?_
  · rw [begin_inFlight, InFlight.current?_begin, if_neg apart]
  · have bound := bounded post waits
    rw [begin_inFlight, InFlight.current?_begin_self] at new
    rw [← Option.some.inj new] at bound
    exact Nat.not_succ_le_self _ bound

theorem keeps_close (live : p.Live) (uri : Uri) : p.Keeps (p.close uri) := by
  refine keeps_aborted live rfl (fun other apart => ?_) fun post _ new => ?_
  · exact (InFlight.current?_drop p.inFlight uri other).trans (if_neg apart)
  · simp [close, InFlight.current?_drop] at new

theorem keeps_shutdown (live : p.Live) : p.Keeps p.shutdown := by
  refine ⟨shutdown_sublist p, fun entry member => ⟨fun stays run own => ?_, fun admitted => ?_⟩⟩
  · rw [InFlight.admits_iff]
    exact fun pushed => absurd (InFlight.admits_iff.mp (live.admits member own) pushed)
      (mem_shutdown p stays own pushed)
  · refine (mem_abortAll p.inFlight.flights p entry).mpr ⟨member, fun flight _ generation _ own => ?_⟩
    exact nomatch InFlight.admits_iff.mp (admitted _ own) rfl

end Pipeline

namespace Stage

variable {s : Stage τ ω}

/-- The runs that wait when the pipeline keeps what stands for its document. -/
theorem posts_become {rest : Pipeline τ} (keeps : s.pipeline.Keeps rest) (world : ω) :
    (become world rest s.pauses).posts.Sublist s.posts ∧ ∀ post ∈ s.posts,
      post ∈ (become world rest s.pauses).posts ↔ rest.inFlight.admits post.run = true := by
  obtain ⟨fewer, stays⟩ := keeps
  have runOf {entry : Planned (Task τ)} {post : Post τ} (waits : entry.action.post? = some post) :
      entry.action.run? = some post.run := by rw [← Task.post?_run, waits, Option.map_some]
  refine ⟨(fewer.filterMap _).append (List.filter_sublist.map _), fun post member => ⟨?_, ?_⟩⟩
  · intro left
    rcases List.mem_append.mp left with task | pause
    · obtain ⟨entry, there, waits⟩ := Pipeline.mem_posts.mp task
      exact (stays entry (fewer.subset there)).mp there post.run (runOf waits)
    · obtain ⟨waits, there, rfl⟩ := List.mem_map.mp pause
      exact (List.mem_filter.mp there).2
  · intro admitted
    rcases List.mem_append.mp member with task | pause
    · obtain ⟨entry, there, waits⟩ := Pipeline.mem_posts.mp task
      refine List.mem_append_left _ (Pipeline.mem_posts.mpr ⟨entry, ?_, waits⟩)
      refine (stays entry there).mpr fun run own => ?_
      rwa [← Option.some.inj ((runOf waits).symm.trans own)]
    · obtain ⟨waits, there, rfl⟩ := List.mem_map.mp pause
      exact List.mem_append_right _ (List.mem_map_of_mem (List.mem_filter.mpr ⟨there, admitted⟩))

/-- No run is dropped where all of them stand for their documents. -/
theorem posts_become_of_live {p : Pipeline τ} {pauses : List (Pause τ)} (world : ω)
    (live : ∀ pause ∈ pauses, p.inFlight.admits pause.run = true) :
    (become world p pauses).posts = p.posts ++ pauses.map .pause := by
  have all : (pauses.filter fun pause => !p.isSuperseded pause.run) = pauses :=
    List.filter_eq_self.mpr live
  rw [posts, become, all]

end Stage

namespace Followed

variable {documented : Documented} {history : List (Happening τ)} {s : Stage τ ω}

abbrev On (documented : Documented) (history : List (Happening τ)) (s : Stage τ ω) : Prop :=
  Followed documented history s.pipeline.inFlight s.posts

variable (h : Followed.On documented history s)

include h

theorem pipeline_live : s.pipeline.Live := fun post member =>
  h.live post (List.mem_append_left _ member)

/-- The pipeline and the world become others, and no run goes on or comes in. -/
theorem still {rest : Pipeline τ} (world : ω) (inFlight : rest.inFlight = s.pipeline.inFlight)
    (posts : rest.posts.Perm s.pipeline.posts) :
    On documented (history ++ []) (Stage.become world rest s.pauses) := by
  have live : ∀ pause ∈ s.pauses, rest.inFlight.admits pause.run = true := fun pause member =>
    inFlight ▸ h.live (.pause pause) (List.mem_append_right _ (List.mem_map_of_mem member))
  have same := Stage.posts_become_of_live world live
  unfold On
  rw [same]
  exact (inFlight ▸ h.idle : Followed documented (history ++ []) rest.inFlight s.posts).perm
    (posts.symm.append_right _)

/-- A call comes in the way of pushes. -/
theorem halt {rest : Pipeline τ} (keeps : s.pipeline.Keeps rest) (world : ω)
    {happening : Happening τ} (numbered : Numbered (history ++ [happening]) rest.inFlight)
    (loud : ¬ happening.IsQuiet) (none : happening.fresh = [])
    (frame : ∀ uri, ¬ happening.Disturbs uri →
      rest.inFlight.current? uri = s.pipeline.inFlight.current? uri) :
    On documented (history ++ [happening]) (Stage.become world rest s.pauses) := by
  obtain ⟨fewer, admitted⟩ := Stage.posts_become keeps world
  have halted := h.disturb numbered loud frame
    (fun time run begins => by rw [begins] at none; cases none) fewer admitted
  rwa [none, List.append_nil] at halted

/-- A run begins. -/
theorem begin (uri : Uri) (trigger : Trigger τ) (time : Nat) :
    let begun := s.pipeline.begin uri trigger
    Followed documented (history ++ [.begun time begun.1]) begun.2.inFlight
      (.start begun.1 :: (Stage.become s.world begun.2 s.pauses).posts) := by
  intro begun
  obtain ⟨fewer, admitted⟩ := Stage.posts_become
    (Pipeline.keeps_begin h.pipeline_live
      (fun _ waits => h.generation_le (List.mem_append_left _ waits)) uri trigger) s.world
  have followed := h.disturb (h.numbered.begun time uri trigger) (fun quiet => quiet)
    (fun other undisturbed => ?_) ?_ fewer admitted
  · exact followed.perm List.perm_append_comm
  · exact (InFlight.current?_begin _ uri other).trans (if_neg (Ne.symm undisturbed))
  · rintro _ _ ⟨⟩
    exact ⟨InFlight.admits_iff.mpr fun _ => InFlight.current?_begin_self _ uri,
      Nat.lt_succ_self _⟩

/-- A push begins, and waits for its start. -/
theorem push (uri : Uri) (time : Nat) :
    On documented (history ++ [.begun time (s.pipeline.begin uri .push).1])
      (Stage.become s.world (s.pipeline.push uri) s.pauses) := by
  have begun := h.begin uri .push time
  exact begun.perm ((Pipeline.posts_plan (s.pipeline.begin uri .push).2 0
    (.start (s.pipeline.begin uri .push).1)).symm.append_right _)

omit h

/-- A run that waits goes on for a leg. -/
theorem leg (outside : Outside ω) (world : ω) {p : Pipeline τ} {pauses : List (Pause τ)}
    {post : Post τ} (same : p.document? = documented)
    (h : Followed documented history p.inFlight (post :: (p.posts ++ pauses.map .pause))) :
    On documented (history ++ (post.leg outside world p).told)
      (Stage.walk pauses (post.leg outside world p)).2 := by
  subst same
  have current : p.isSuperseded post.run = false := by
    simpa [InFlight.admits_eq] using h.live post List.mem_cons_self
  have own := Pipeline.leg_isOf outside world p post
  have quiet : ∀ happening ∈ (post.leg outside world p).told, happening.IsQuiet :=
    fun happening member => (own happening member).isQuiet
  have fits := h.fits post List.mem_cons_self
  have walked : Followed p.document? (history ++ (post.leg outside world p).told)
      (post.leg outside world p).pipeline.inFlight
      ((post.leg outside world p).posts ++ pauses.map .pause) := by
    cases Pipeline.leg_leads outside world current fits with
    | onward next same fits inFlight posts =>
        rw [inFlight]
        refine (h.walk own (h.numbered.quiet quiet) (some next) ?_ ?_ nofun ?_).perm
          (posts.symm.append_right _)
        · rintro _ ⟨⟩
          exact same
        · rintro _ ⟨⟩
          exact fits
        · intro other member
          rcases List.mem_cons.mp member with rfl | waits
          · exact same ▸ h.live post List.mem_cons_self
          · exact h.live other (List.mem_cons_of_mem _ waits)
    | ended journey inFlight posts =>
        rw [inFlight, posts]
        refine h.walk own ((h.numbered.quiet quiet).finish _ _) none nofun nofun
          (fun _ => journey) fun other waits => InFlight.admits_iff.mpr fun pushed => ?_
        have before := InFlight.admits_iff.mp (h.live other (List.mem_cons_of_mem _ waits)) pushed
        rw [InFlight.current?_finish, if_neg]
        · exact before
        · rintro ⟨uri, now⟩
          rw [uri, now] at before
          have there := List.mem_map_of_mem (f := fun post => post.run.generation) waits
          rw [← Option.some.inj before] at there
          exact (List.nodup_cons.mp h.distinct).1 there
  have live : ∀ pause ∈ pauses ++ (post.leg outside world p).pause?.toList,
      (post.leg outside world p).pipeline.inFlight.admits pause.run = true := by
    intro pause member
    refine walked.live (.pause pause) ?_
    rcases List.mem_append.mp member with old | new
    · exact List.mem_append_right _ (List.mem_map_of_mem old)
    · exact List.mem_append_left _ (List.mem_append_right _ (List.mem_map_of_mem new))
  unfold On Stage.walk
  rw [Stage.posts_become_of_live _ live, List.map_append]
  refine walked.perm ?_
  rw [Leg.posts, List.append_assoc]
  exact List.perm_append_comm.append_left _

end Followed

/-- What stands after the end of a run has stood before. -/
theorem InFlight.admits_of_finish {f : InFlight} {uri : Uri} {generation : Nat} {run : Run τ}
    (h : (f.finish uri generation).admits run = true) : f.admits run = true := by
  rw [InFlight.admits_iff] at h ⊢
  intro pushed
  have after := h pushed
  rw [current?_finish] at after
  split at after
  · cases after
  · exact after

namespace Stage

variable {s : Stage τ ω} {place : Nat} {entry : Planned (Task τ)}

theorem posts_without (found : s.pipeline.agenda[place]? = some entry) :
    s.pipeline.posts.Perm (entry.action.post?.toList ++ (s.without place).posts) := by
  have taken := (Scene.perm_without (s := ⟨s.world, s.pipeline, []⟩) found).filterMap
    fun entry => entry.action.post?
  refine taken.trans (List.Perm.of_eq ?_)
  cases own : entry.action.post? <;> simp [own, Pipeline.posts, without, Scene.without]

/-- Pauses that were dropped before a leg would be dropped after it. -/
theorem walk_become {p : Pipeline τ} {leg : Leg τ ω}
    (later : ∀ run : Run τ, leg.pipeline.inFlight.admits run = true → p.inFlight.admits run = true)
    (world : ω) (pauses : List (Pause τ)) :
    walk (become world p pauses).pauses leg = walk pauses leg := by
  have both : ((fun pause : Pause τ => !leg.pipeline.isSuperseded pause.run &&
      !p.isSuperseded pause.run)) = fun pause => !leg.pipeline.isSuperseded pause.run := by
    funext pause
    have stays := later pause.run
    simp only [InFlight.admits_eq] at stays
    cases gone : leg.pipeline.isSuperseded pause.run with
    | true => rfl
    | false => simp [stays (by simp [gone])]
  simp only [walk, become, List.filter_append, List.filter_filter, both]

end Stage

namespace Followed

variable {documented : Documented} {history : List (Happening τ)} {s : Stage τ ω}

/-- A question begins its run, which goes for a leg. -/
theorem ask (outside : Outside ω) (same : s.pipeline.document? = documented)
    (h : On documented history s) (uri : Uri) (ticket : τ) :
    let leg := s.pipeline.legOf s.world (.ask uri ticket)
    On documented (history ++ leg.told) (Stage.walk s.pauses leg).2 := by
  let begun := s.pipeline.begin uri (.pull ticket)
  have docs : begun.2.document? = documented := by
    rw [← same]
    funext other
    exact Pipeline.document?_congr (Pipeline.begin_workspace? s.pipeline uri (.pull ticket)) other
  have started := Followed.leg outside s.world docs
    (h.begin uri (.pull ticket) s.pipeline.now)
  have later : ∀ run : Run τ, (begun.2.startLeg s.world begun.1).pipeline.inFlight.admits run = true →
      begun.2.inFlight.admits run = true := by
    intro run stays
    have current : begun.2.isSuperseded begun.1 = false := rfl
    cases Pipeline.startLeg_leads s.world current with
    | onward next own fits inFlight posts => exact inFlight ▸ stays
    | ended journey inFlight posts =>
        rw [inFlight] at stays
        exact InFlight.admits_of_finish stays
  rw [List.append_assoc] at started
  change On documented _ (Stage.walk s.pauses (begun.2.startLeg s.world begun.1)).2
  rw [← Stage.walk_become later s.world s.pauses]
  exact started

variable (h : On documented history s)

include h

theorem call (call : Call τ) :
    On documented (history ++ s.pipeline.tellCall call)
      (Stage.become s.world (s.pipeline.obey call) s.pauses) := by
  cases call with
  | change uri version => exact h.still s.world rfl (Pipeline.posts_plan _ _ _)
  | close uri =>
      exact h.halt (Pipeline.keeps_close h.pipeline_live uri) s.world (h.numbered.closed uri) id rfl
        fun other undisturbed => (InFlight.current?_drop _ uri other).trans
          (if_neg (Ne.symm undisturbed))
  | push uri => exact h.push uri s.pipeline.now
  | pull uri ticket => exact h.still s.world rfl (Pipeline.posts_plan _ _ _)
  | shutdown =>
      exact h.halt (Pipeline.keeps_shutdown h.pipeline_live) s.world h.numbered.stopped id rfl
        fun _ undisturbed => absurd trivial undisturbed

/-- The first leg of a task that was on the agenda. -/
theorem perform (outside : Outside ω) (same : s.pipeline.document? = documented) {place : Nat}
    {entry : Planned (Task τ)} (found : s.pipeline.agenda[place]? = some entry) :
    let leg := (s.without place).legOf s.world entry.action
    On documented (history ++ leg.told) (Stage.walk s.pauses leg).2 := by
  obtain ⟨due, task⟩ := entry
  have taken := (Stage.posts_without found).append_right (s.pauses.map .pause)
  -- the stage without the task, for those tasks that carry no run on
  have left (none : task.post? = none) : On documented history { s with pipeline := s.without place } := by
    rw [none] at taken
    exact Followed.perm h taken
  cases task with
  | wake uri generation =>
      have woken : On documented history { s with pipeline := { s.without place with
          debouncer := s.pipeline.debouncer.wake uri generation } } := left rfl
      simp only [Pipeline.legOf, Pipeline.wake, Stage.walk, Option.toList_none, List.append_nil]
      split
      · exact woken.push uri s.pipeline.now
      · exact woken.still s.world rfl (List.Perm.refl _)
  | ask uri ticket =>
      exact ask outside (s := { s with pipeline := s.without place }) same (left rfl) uri ticket
  | start run => exact leg outside s.world (p := s.without place) same (Followed.perm h taken)
  | finish run document result =>
      exact leg outside s.world (p := s.without place) same (Followed.perm h taken)

theorem act (outside : Outside ω) (same : s.pipeline.document? = documented) (act : Act τ ω) :
    On documented (history ++ (s.act outside act).1) (s.act outside act).2 := by
  cases act with
  | call call => exact h.call call
  | wait millis => exact h.idle
  | alter world => exact h.idle
  | perform place =>
      rcases Stage.act_perform outside s place with nothing | ⟨entry, found, performed⟩
      · rw [nothing]
        exact h.idle
      · rw [performed]
        exact h.perform outside same found
  | resume place =>
      rcases Stage.act_resume outside s place with nothing | ⟨pause, found, resumed⟩
      · rw [nothing]
        exact h.idle
      · rw [resumed]
        obtain ⟨inside, rfl⟩ := List.getElem?_eq_some_iff.mp found
        have taken := (List.getElem_cons_eraseIdx_perm inside).symm.map Post.pause
        have posts : s.posts.Perm (.pause s.pauses[place] ::
            (s.pipeline.posts ++ (s.pauses.eraseIdx place).map .pause)) :=
          (taken.append_left s.pipeline.posts).trans List.perm_middle
        exact leg outside s.world same (Followed.perm h posts)

end Followed

theorem Pipeline.obey_workspace? (p : Pipeline τ) (call : Call τ) :
    (p.obey call).workspace? = p.workspace? := by
  cases call with
  | close uri => exact abortPush_workspace? p uri
  | push uri => exact begin_workspace? p uri .push
  | shutdown => exact shutdown_workspace? p
  | _ => rfl

/-- No act changes the workspace. -/
theorem Stage.act_workspace? (outside : Outside ω) (s : Stage τ ω) (act : Act τ ω) :
    (s.act outside act).2.pipeline.workspace? = s.pipeline.workspace? := by
  cases act with
  | call call => exact s.pipeline.obey_workspace? call
  | wait millis => rfl
  | alter world => rfl
  | perform place =>
      rcases act_perform outside s place with nothing | ⟨⟨due, task⟩, -, performed⟩
      · rw [nothing]
      · rw [performed]
        cases task with
        | wake uri generation => exact Pipeline.wake_workspace? (s.without place) uri generation
        | ask uri ticket =>
            exact (Pipeline.leg_workspace? outside s.world _ (.start _)).trans
              (Pipeline.begin_workspace? (s.without place) uri (.pull ticket))
        | start run => exact Pipeline.leg_workspace? outside s.world _ (.start run)
        | finish run document result =>
            exact Pipeline.leg_workspace? outside s.world _ (.finish run document result)
  | resume place =>
      rcases act_resume outside s place with nothing | ⟨pause, -, resumed⟩
      · rw [nothing]
      · rw [resumed]
        exact Pipeline.leg_workspace? outside s.world _ (.pause pause)

def documentedIn (workspace? : Option Workspace) : Documented := fun uri =>
  workspace?.bind fun workspace => (workspace.document? uri).map fun document => (workspace, document)

theorem Pipeline.documentedIn_eq (p : Pipeline τ) : p.document? = documentedIn p.workspace? := rfl

namespace Stage

variable (outside : Outside ω) (workspace? : Option Workspace) (window : Nat) (world : ω)

/-- Wherever some acts lead, all runs are on their way. -/
theorem followed (acts : List (Act τ ω)) :
    let played := (start workspace? window world : Stage τ ω).play outside acts
    played.2.pipeline.workspace? = workspace? ∧
      Followed.On (documentedIn workspace?) played.1 played.2 := by
  have step (history : List (Happening τ)) (s : Stage τ ω) (act : Act τ ω)
      (h : s.pipeline.workspace? = workspace? ∧ Followed.On (documentedIn workspace?) history s) :
      (s.act outside act).2.pipeline.workspace? = workspace? ∧
        Followed.On (documentedIn workspace?) (history ++ (s.act outside act).1)
          (s.act outside act).2 := by
    obtain ⟨same, followed⟩ := h
    exact ⟨(act_workspace? outside s act).trans same,
      followed.act outside (by rw [Pipeline.documentedIn_eq, same]) act⟩
  exact play_keeps outside _ step [] (s := start workspace? window world)
    ⟨rfl, Followed.start⟩ acts

end Stage

/-! ## Builds -/

namespace Build.Command

variable (workspace : Workspace) (pathExists : Path → Bool) (document : DocumentRef)

end Build.Command

def Happening.command? : Happening τ → Option Build.Command
  | .seen ⟨_, _, .build command⟩ => some command
  | _ => none

namespace Pipeline

variable (world : ω) (p : Pipeline τ) (run : Run τ) {happening : Happening τ}

theorem endLeg_command? (diagnostics : List Diagnostic)
    (member : happening ∈ (p.endLeg world run diagnostics).told) : happening.command? = none := by
  unfold endLeg deliver at member
  dsimp only at member
  split at member
  · cases member
  · obtain rfl := List.mem_singleton.mp member
    rfl

theorem startLeg_command? (member : happening ∈ (p.startLeg world run).told) :
    happening.command? = none := by
  unfold startLeg at member
  split at member
  · exact endLeg_command? world p run [] member
  · obtain rfl := List.mem_singleton.mp member
    rfl

theorem finishLeg_command? (document : DocumentRef) (result : Build.Result)
    (member : happening ∈ (p.finishLeg world run document result).told) :
    happening.command? = none := by
  unfold finishLeg at member
  split at member
  · exact endLeg_command? world p run _ member
  · obtain ⟨event, complained, rfl⟩ := List.mem_map.mp member
    obtain ⟨fault, -, rfl⟩ := List.mem_map.mp complained
    rfl

theorem legOf_command? (task : Task τ) (member : happening ∈ (p.legOf world task).told) :
    happening.command? = none := by
  cases task with
  | wake uri generation =>
      simp only [legOf] at member
      split at member
      · obtain rfl := List.mem_singleton.mp member
        rfl
      · cases member
  | ask uri ticket =>
      rcases List.mem_cons.mp member with rfl | later
      · rfl
      · exact startLeg_command? world _ _ later
  | start run => exact startLeg_command? world p run member
  | finish run document result => exact finishLeg_command? world p run document result member

/-- In the leg in which a build starts, no other build starts. -/
theorem buildLeg_told (outside : Outside ω) (workspace : Workspace) (document : DocumentRef) :
    let command := Build.Command.select workspace (outside.pathExists world) document
    ∃ others, (p.buildLeg outside world run workspace document).told =
        .started run (outside.build world command).1 ::
          .seen (p.eventOf run (.build command)) :: others ∧
      ∀ happening ∈ others, happening.command? = none := by
  intro command
  rw [buildLeg_eq]
  dsimp only
  split
  · exact ⟨_, rfl, fun _ => finishLeg_command? _ _ run document _⟩
  · exact ⟨[], rfl, fun _ member => absurd member List.not_mem_nil⟩

end Pipeline

/-- A build starts in an act: its run has waited for it, and the command is chosen by what exists
then. -/
theorem Followed.build {documented : Documented} {history : List (Happening τ)} {s : Stage τ ω}
    (h : Followed.On documented history s) (outside : Outside ω) {act : Act τ ω} {event : Event τ}
    {command : Build.Command} (builds : event.deed = .build command)
    (told : .seen event ∈ (s.act outside act).1) :
    event.time = s.pipeline.now ∧
      .started event.run (outside.build s.world command).1 ∈ (s.act outside act).1 ∧
      ∃ workspace document, documented event.run.uri = some (workspace, document) ∧
        command = Build.Command.select workspace (outside.pathExists s.world) document := by
  obtain ⟨time, run, deed⟩ := event
  obtain rfl : deed = .build command := builds
  have quiet {others : List (Happening τ)}
      (silent : ∀ happening ∈ others, happening.command? = none)
      (told : .seen ⟨time, run, .build command⟩ ∈ others) : False := by
    have none := silent _ told
    exact Option.some_ne_none command none
  cases act with
  | call call => cases call <;> simp [Stage.act, Pipeline.tellCall] at told
  | wait millis => cases told
  | alter world => cases told
  | perform place =>
      rcases Stage.act_perform outside s place with nothing | ⟨entry, -, performed⟩
      · rw [nothing] at told
        cases told
      · rw [performed] at told
        exact (quiet (fun _ => Pipeline.legOf_command? s.world _ entry.action) told).elim
  | resume place =>
      rcases Stage.act_resume outside s place with nothing | ⟨pause, found, resumed⟩
      · rw [nothing] at told
        cases told
      · rw [resumed] at told ⊢
        cases pause with
        | deliver run diagnostics =>
            exact (quiet (fun _ => Pipeline.endLeg_command? s.world _ run diagnostics) told).elim
        | build own workspace document =>
            have waits : .pause (.build own workspace document) ∈ s.posts :=
              List.mem_append_right _ (List.mem_map_of_mem (List.mem_of_getElem? found))
            have found : documented own.uri = some (workspace, document) := by
              have fits := h.fits _ waits
              generalize trail _ history = before at fits
              cases fits with
              | build found cleared => exact found
            let chosen := Build.Command.select workspace (outside.pathExists s.world) document
            obtain ⟨others, all, silent⟩ :=
              s.pipeline.buildLeg_told s.world own outside workspace document
            change _ ∈ (s.pipeline.buildLeg outside s.world own workspace document).told at told
            change _ ∧ _ ∈ (s.pipeline.buildLeg outside s.world own workspace document).told ∧ _
            rw [all] at told ⊢
            simp only [List.mem_cons, reduceCtorEq, false_or] at told
            rcases told with same | later
            · obtain ⟨rfl, rfl, builds⟩ : time = s.pipeline.now ∧ run = own ∧
                  Deed.build command = .build chosen := by simpa [Pipeline.eventOf] using same
              obtain rfl := Deed.build.inj builds
              exact ⟨rfl, List.mem_cons_self, workspace, document, found, rfl⟩
            · exact (quiet silent later).elim

/-- A run that waits nowhere any more has come to its end, unless it is a push that was disturbed. -/
theorem Followed.journey {documented : Documented} {history : List (Happening τ)} {s : Stage τ ω}
    (h : Followed.On documented history s) {time : Nat} {run : Run τ}
    (begun : .begun time run ∈ history) (rests : run ∉ s.posts.map Post.run)
    (undisturbed : ¬ (run.trigger = .push ∧ Disturbed run history)) :
    Journey documented run (trail run.generation history) := by
  rcases h.away time run begun rests with whole | ⟨pushed, disturbed, -⟩
  · exact whole
  · exact absurd ⟨pushed, disturbed⟩ undisturbed

theorem Followed.underway {documented : Documented} {history : List (Happening τ)} {s : Stage τ ω}
    (h : Followed.On documented history s) {time : Nat} {run : Run τ}
    (begun : .begun time run ∈ history) :
    Underway documented run (trail run.generation history) := by
  by_cases waits : run ∈ s.posts.map Post.run
  · obtain ⟨post, member, rfl⟩ := List.mem_map.mp waits
    exact (h.fits post member).underway
  · rcases h.away time run begun waits with whole | ⟨-, -, underway⟩
    · exact whole.underway
    · exact underway

namespace Sample

end Sample

end AsmDiagnostics
