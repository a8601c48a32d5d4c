import AsmDiagnostics.Proofs.Message.Answers
import AsmDiagnostics.Proofs.Session.Notices

/-!
# Frames that a session takes

A session answers a frame at once, or leaves it to its pipeline as a question, or there is nothing
to be answered.  Which of these it does depends on the frames before and not on what its pipeline
has done meanwhile.
-/

namespace AsmDiagnostics.Session

open Message

/-- A request is a question that the session leaves to its pipeline: the editor asks for the
diagnostics of a document that is open. -/
def asks (s : Session) (method : String) (params? : Option Json) : Bool :=
  decide (method = "textDocument/diagnostic") && s.pipeline?.isSome && !s.shutdownRequested &&
    (decodeParams documentParams params?).toOption.any s.documents.contains

/-- The id of a question that the session leaves to its pipeline. -/
def question? (s : Session) (body : List UInt8) : Option Json :=
  match Json.parse body with
  | .error _ => none
  | .ok value =>
      match Incoming.ofJson? value with
      | some (.request id method params?) =>
          if s.asks method params? then some id else none
      | _ => none

/-- How a frame is met. -/
inductive Met (s : Session) (body : List UInt8) (turn : Turn) : Prop where
  /-- It is answered. -/
  | answered (id answer : Json) (due : due? body = some id) (answer? : turn.answer? = some answer)
      (form : IsAnswer id answer) (garbled : isGarbled body = true → isRefusal answer = true)
      (unasked : s.question? body = none) (goes : turn.ends = false)
  /-- It is a question. -/
  | asked (id : Json) (due : due? body = some id) (question : s.question? body = some id)
      (silent : turn.answer? = none) (goes : turn.ends = false) (whole : isGarbled body = false)
  /-- There is nothing to be answered. -/
  | passed (due : due? body = none) (unasked : s.question? body = none)
      (silent : turn.answer? = none)

theorem takeRequest_meets (s : Session) {body : List UInt8} {id : Json} {method : String}
    {params? : Option Json} (due : due? body = some id) (whole : isGarbled body = false)
    (question : s.question? body = if s.asks method params? then some id else none) :
    Met s body (s.takeRequest id method params?) := by
  have replied (t : Session) (outcome : Except Fault Json) (other : s.asks method params? = false) :
      Met s body (t.replying id outcome) :=
    .answered id _ due rfl (reply_isAnswer id outcome)
      (fun garbled => absurd garbled (by simp [whole])) (by simp [question, other]) rfl
  unfold takeRequest
  split
  · rename_i first
    have other : s.asks method params? = false := by simp [asks, first]
    unfold takeInitialize
    split
    · exact replied s _ other
    · split
      · exact replied s _ other
      · exact replied _ _ other
  · split
    · rename_i early
      exact replied s _ (by simp [asks, Option.isNone_iff_eq_none.mp early])
    · rename_i ready
      split
      · rename_i late
        exact replied s _ (by simp [asks, late])
      · rename_i running
        split
        · rename_i shutdown
          exact replied _ _ (by simp [asks, shutdown])
        · split
          · rename_i diagnostic
            have some : s.pipeline?.isSome := by simpa [Option.isSome_iff_ne_none] using ready
            have open? : s.asks method params? =
                (decodeParams documentParams params?).toOption.any s.documents.contains := by
              simp [asks, diagnostic, some, running]
            unfold takeQuestion
            split
            · rename_i failed
              exact replied s _ (by simp [open?, failed, Except.toOption])
            · rename_i uri decoded
              split
              · rename_i isOpen
                refine .asked id due ?_ rfl rfl whole
                simp [question, open?, decoded, Except.toOption, isOpen]
              · rename_i unknown
                exact replied s _ (by simpa [open?, decoded, Except.toOption] using unknown)
          · rename_i other
            exact replied s _ (by simp [asks, other])

/-- Every frame is answered, or a question, or nothing to be answered. -/
theorem take_meets (s : Session) (body : List UInt8) : Met s body (s.take body) := by
  unfold take
  cases parsed : Json.parse body with
  | error fault =>
      exact .answered .null _ (by simp [due?, parsed]) rfl (reply_isAnswer _ _)
        (fun _ => refusal_isRefusal _ _) (by simp [question?, parsed]) rfl
  | ok value =>
      dsimp only
      cases read : Incoming.ofJson? value with
      | none =>
          exact .answered (idOf value) _ (by simp [due?, parsed, read]) rfl (reply_isAnswer _ _)
            (fun _ => refusal_isRefusal _ _) (by simp [question?, parsed, read]) rfl
      | some message =>
          cases message with
          | request id method params? =>
              exact takeRequest_meets s (by simp [due?, parsed, read])
                (by simp [isGarbled, parsed, read]) (by simp [question?, parsed, read])
          | notification method params? =>
              have due : due? body = none := by simp [due?, parsed, read]
              have unasked : s.question? body = none := by simp [question?, parsed, read]
              dsimp only [takeMessage]
              split
              · exact .passed due unasked rfl
              · exact .passed due unasked rfl
          | response id =>
              exact .passed (by simp [due?, parsed, read]) (by simp [question?, parsed, read]) rfl

/-- What ends a session has no answer. -/
theorem take_silent_of_ends {s : Session} {body : List UInt8} (ends : (s.take body).ends = true) :
    (s.take body).answer? = none := by
  cases take_meets s body with
  | answered _ _ _ _ _ _ _ goes => exact nomatch goes.symm.trans ends
  | asked _ _ _ silent _ _ => exact silent
  | passed _ _ silent => exact silent

theorem take_answer {s : Session} {body : List UInt8} {answer : Json}
    (h : (s.take body).answer? = some answer) :
    ∃ id, due? body = some id ∧ IsAnswer id answer ∧
      (isGarbled body = true → isRefusal answer = true) := by
  cases take_meets s body with
  | answered id given due answer? form garbled =>
      obtain rfl := Option.some.inj (answer?.symm.trans h)
      exact ⟨id, due, form, garbled⟩
  | asked _ _ _ silent => exact nomatch silent.symm.trans h
  | passed _ _ silent => exact nomatch silent.symm.trans h

theorem take_ends (s : Session) (body : List UInt8) : (s.take body).ends = isExit body := by
  have met := take_meets s body
  unfold take at met ⊢
  cases parsed : Json.parse body with
  | error fault => simp [isExit, parsed, replying]
  | ok value =>
      rw [parsed] at met
      dsimp only at met ⊢
      cases read : Incoming.ofJson? value with
      | none => simp [isExit, parsed, read, replying]
      | some message =>
          rw [read] at met
          cases message with
          | request id method params? =>
              have quiet : isExit body = false := by simp [isExit, parsed, read]
              have due : due? body = some id := by simp [due?, parsed, read]
              rw [quiet]
              cases met with
              | answered _ _ _ _ _ _ _ goes => exact goes
              | asked _ _ _ _ goes _ => exact goes
              | passed none _ _ => simp [due] at none
          | notification method params? =>
              simp only [takeMessage, isExit, parsed, read]
              split
              · rename_i same
                simp [same]
              · rename_i other
                simp [silent, other]
          | response id => simp [isExit, parsed, read, takeMessage, silent]

/-! ## What the pipeline does meanwhile -/

/-- The session with a pipeline in the place of its own in which nothing has happened. -/
def bare (s : Session) : Session :=
  { s with pipeline? := s.pipeline?.map fun _ => Pipeline.start none 0 }

theorem bare_isSome (s : Session) : s.bare.pipeline?.isSome = s.pipeline?.isSome := by
  simp [bare]

theorem bare_isNone (s : Session) : s.bare.pipeline?.isNone = s.pipeline?.isNone := by
  simp [bare]

@[simp] theorem bare_bare (s : Session) : s.bare.bare = s.bare := by
  simp [bare, Function.comp_def]

/-- Nothing that happens to the pipeline can be told from the rest of the session. -/
@[simp] theorem withPipeline_bare (s : Session) (f : Pipeline Json → Pipeline Json) :
    (s.withPipeline f).bare = s.bare := by
  simp [bare, withPipeline, Function.comp_def]

@[simp] theorem withPipeline_isSome (s : Session) (f : Pipeline Json → Pipeline Json) :
    (s.withPipeline f).pipeline?.isSome = s.pipeline?.isSome := by
  simp [withPipeline]

theorem question?_bare (s : Session) (body : List UInt8) :
    s.bare.question? body = s.question? body := by
  unfold question? asks
  rw [bare_isSome]
  rfl

def SameTurn (first second : Turn) : Prop :=
  first.answer? = second.answer? ∧ first.session.bare = second.session.bare

theorem takeRequest_bare (s : Session) (id : Json) (method : String) (params? : Option Json) :
    SameTurn (s.bare.takeRequest id method params?) (s.takeRequest id method params?) := by
  have replied (outcome : Except Fault Json) :
      SameTurn (s.bare.replying id outcome) (s.replying id outcome) := ⟨rfl, bare_bare s⟩
  unfold takeRequest
  rw [bare_isNone, show s.bare.shutdownRequested = s.shutdownRequested from rfl]
  split
  · unfold takeInitialize
    rw [bare_isSome]
    split
    · exact replied _
    · cases decodeParams InitializeParams.decode params? with
      | error fault => exact replied _
      | ok params => exact ⟨rfl, rfl⟩
  · split
    · exact replied _
    · split
      · exact replied _
      · split
        · refine ⟨rfl, ?_⟩
          change { (s.bare.withPipeline _).bare with shutdownRequested := true } =
            { (s.withPipeline _).bare with shutdownRequested := true }
          rw [withPipeline_bare, withPipeline_bare, bare_bare]
        · split
          · unfold takeQuestion
            cases decodeParams documentParams params? with
            | error fault => exact replied _
            | ok uri =>
                dsimp only
                rw [show s.bare.documents = s.documents from rfl]
                split
                · refine ⟨rfl, ?_⟩
                  simp [silent]
                · exact replied _
          · exact replied _

theorem opened_bare (s : Session) (p : OpenParams) : (s.bare.opened p).bare = (s.opened p).bare := by
  unfold opened
  rw [withPipeline_bare, withPipeline_bare]
  exact congrArg (fun t : Session => { t with documents := s.documents.openAt p.uri p.version p.text })
    (bare_bare s)

theorem changed_bare (s : Session) (p : ChangeParams) :
    (s.bare.changed p).bare = (s.changed p).bare := by
  unfold changed
  rw [show s.bare.documents = s.documents from rfl]
  cases s.documents.change? p.uri p.version p.edits with
  | none => exact bare_bare s
  | some documents =>
      dsimp only
      rw [withPipeline_bare, withPipeline_bare]
      exact congrArg (fun t : Session => { t with documents := documents }) (bare_bare s)

theorem closed_bare (s : Session) (uri : Uri) : (s.bare.closed uri).bare = (s.closed uri).bare := by
  unfold closed
  rw [withPipeline_bare, withPipeline_bare]
  exact congrArg (fun t : Session => { t with documents := s.documents.close uri }) (bare_bare s)

theorem heed_bare (s : Session) (notice : Notice) :
    (s.bare.heed notice).bare = (s.heed notice).bare := by
  cases notice with
  | opened params => exact opened_bare s params
  | changed params => exact changed_bare s params
  | closed uri => exact closed_bare s uri
  | filesChanged =>
      unfold heed filesChanged
      rw [withPipeline_bare, withPipeline_bare, bare_bare]

theorem afterNotification_bare (s : Session) (method : String) (params? : Option Json) :
    (s.bare.afterNotification method params?).bare = (s.afterNotification method params?).bare := by
  rw [afterNotification_eq, afterNotification_eq]
  cases Notice.ofNotification? method params? with
  | none => exact bare_bare s
  | some notice => exact heed_bare s notice

theorem take_bare (s : Session) (body : List UInt8) : SameTurn (s.bare.take body) (s.take body) := by
  unfold take
  cases Json.parse body with
  | error fault => exact ⟨rfl, bare_bare s⟩
  | ok value =>
      dsimp only
      cases Incoming.ofJson? value with
      | none => exact ⟨rfl, bare_bare s⟩
      | some message =>
          cases message with
          | request id method params? => exact takeRequest_bare s id method params?
          | notification method params? =>
              dsimp only [takeMessage]
              split
              · exact ⟨rfl, bare_bare s⟩
              · exact ⟨rfl, afterNotification_bare s method params?⟩
          | response id => exact ⟨rfl, bare_bare s⟩

theorem heed_isSome (s : Session) (notice : Notice) :
    (s.heed notice).pipeline?.isSome = s.pipeline?.isSome := by
  cases notice with
  | opened params => exact withPipeline_isSome _ _
  | changed params =>
      simp only [heed, changed]
      split
      · rfl
      · exact withPipeline_isSome _ _
  | closed uri => exact withPipeline_isSome _ _
  | filesChanged => exact withPipeline_isSome _ _

/-- What a notification leaves of a session has a pipeline if there was one. -/
theorem afterNotification_isSome (s : Session) (method : String) (params? : Option Json) :
    (s.afterNotification method params?).pipeline?.isSome = s.pipeline?.isSome := by
  rw [afterNotification_eq]
  cases Notice.ofNotification? method params? with
  | none => rfl
  | some notice => exact heed_isSome s notice

/-- A session keeps its pipeline. -/
theorem take_isSome {s : Session} (h : s.pipeline?.isSome) (body : List UInt8) :
    (s.take body).session.pipeline?.isSome := by
  unfold take
  cases Json.parse body with
  | error fault => exact h
  | ok value =>
      dsimp only
      cases Incoming.ofJson? value with
      | none => exact h
      | some message =>
          cases message with
          | request id method params? =>
              dsimp only [takeMessage]
              unfold takeRequest takeInitialize takeQuestion
              repeat' split
              all_goals first | exact h | exact (withPipeline_isSome _ _).trans h
          | notification method params? =>
              dsimp only [takeMessage]
              split
              · exact h
              · exact (afterNotification_isSome s method params?).trans h
          | response id => exact h

/-! ## What becomes of the pipeline -/

def Has (s : Session) (kind : Pipeline Json → Prop) : Prop := ∀ p, s.pipeline? = some p → kind p

namespace Has

variable {s : Session} {kind : Pipeline Json → Prop}

theorem withPipeline (h : s.Has kind) {later : Pipeline Json → Prop}
    {f : Pipeline Json → Pipeline Json} (keeps : ∀ p, kind p → later (f p)) :
    (s.withPipeline f).Has later := by
  intro p same
  obtain ⟨before, found, rfl⟩ := Option.map_eq_some_iff.mp same
  exact keeps before (h before found)

theorem request (h : s.Has kind) (fresh : ∀ settings root?, kind (pipelineFor settings root?))
    (shutdown : ∀ p, kind p → kind p.shutdown)
    (pull : s.shutdownRequested = false → ∀ p uri id, kind p → kind (p.pull uri id)) (id : Json)
    (method : String) (params? : Option Json) :
    (s.takeRequest id method params?).session.Has kind := by
  unfold takeRequest
  split
  · unfold takeInitialize
    split
    · exact h
    · split
      · exact h
      · intro p same
        obtain rfl := Option.some.inj same
        exact fresh _ _
  · split
    · exact h
    · split
      · exact h
      · rename_i running
        have asked := pull (Bool.eq_false_iff.mpr running)
        split
        · exact h.withPipeline shutdown
        · split
          · unfold takeQuestion
            split
            · exact h
            · split
              · exact h.withPipeline fun p => asked p _ id
              · exact h
          · exact h

theorem notified (h : s.Has kind) {method : String}
    (change : isStirring method = true → ∀ p uri version, kind p → kind (p.change uri version))
    (close : ∀ p uri, kind p → kind (p.close uri)) (params? : Option Json) :
    (s.afterNotification method params?).Has kind := by
  have understood {α : Type} (params : Except Fault α) (f : α → Session)
      (keeps : ∀ a, (f a).Has kind) : Has (params.toOption.elim s f) kind := by
    cases params with
    | error fault => exact h
    | ok a => exact keeps a
  unfold afterNotification
  split
  · rename_i opens
    have change := change (by simp [opens, isStirring])
    exact understood _ _ fun params => withPipeline h fun p => change p _ _
  · split
    · rename_i changes
      have change := change (by simp [changes, isStirring])
      refine understood _ _ fun params => ?_
      unfold changed
      split
      · exact h
      · exact withPipeline h fun p => change p _ _
    · split
      · exact understood _ _ fun uri => withPipeline h fun p => close p uri
      · split
        · rename_i stirred
          have change := change (by simp [stirred, isStirring])
          refine understood _ _ fun _ => h.withPipeline fun p kept => ?_
          generalize s.documents.entries = entries
          induction entries generalizing p with
          | nil => exact kept
          | cons entry entries ih => exact ih _ (change p _ _ kept)
        · exact h

/-- A frame keeps of the pipeline what those calls of the editor keep to which it leads. -/
theorem taken (h : s.Has kind) {body : List UInt8}
    (fresh : ∀ settings root?, kind (pipelineFor settings root?))
    (change : stirs body = true → ∀ p uri version, kind p → kind (p.change uri version))
    (close : ∀ p uri, kind p → kind (p.close uri)) (shutdown : ∀ p, kind p → kind p.shutdown)
    (pull : s.shutdownRequested = false → ∀ p uri id, kind p → kind (p.pull uri id)) :
    (s.take body).session.Has kind := by
  unfold take
  cases parsed : Json.parse body with
  | error fault => exact h
  | ok value =>
      dsimp only
      cases read : Incoming.ofJson? value with
      | none => exact h
      | some message =>
          cases message with
          | request id method params? => exact h.request fresh shutdown pull id method params?
          | notification method params? =>
              dsimp only [takeMessage]
              split
              · exact h
              · refine h.notified (fun stirring => change ?_) close params?
                simp [stirs, parsed, read, stirring]
          | response id => exact h

end Has

/-! ## Shutting down -/

theorem afterNotification_shut (s : Session) (method : String) (params? : Option Json) :
    (s.afterNotification method params?).shutdownRequested = s.shutdownRequested := by
  rw [afterNotification_eq]
  cases Notice.ofNotification? method params? with
  | none => rfl
  | some notice => exact heed_shutdownRequested s notice

/-- Only a request to shut down does anything about it, and only once. -/
theorem take_shut (s : Session) (body : List UInt8) :
    (s.take body).session.shutdownRequested = s.shutdownRequested ∨
      ∃ id, s.take body = s.takeShutdown id := by
  unfold take
  cases Json.parse body with
  | error fault => exact .inl rfl
  | ok value =>
      dsimp only
      cases Incoming.ofJson? value with
      | none => exact .inl rfl
      | some message =>
          cases message with
          | request id method params? =>
              dsimp only [takeMessage]
              unfold takeRequest takeInitialize takeQuestion
              repeat' split
              all_goals first | exact .inl rfl | exact .inr ⟨id, rfl⟩
          | notification method params? =>
              dsimp only [takeMessage]
              split
              · exact .inl rfl
              · exact .inl (afterNotification_shut s method params?)
          | response id => exact .inl rfl

/-! ## One frame after another -/

def afterAll (s : Session) (bodies : List (List UInt8)) : Session :=
  bodies.foldl (fun s body => (s.take body).session) s

/-- The frames that a session answers at once, each with its answer. -/
def exchanges : Session → List (List UInt8) → List (List UInt8 × Json)
  | _, [] => []
  | s, body :: later =>
      ((s.take body).answer?.toList.map fun answer => (body, answer)) ++
        exchanges (s.take body).session later

/-- The frames that are to be answered and are no questions. -/
def atOnce : Session → List (List UInt8) → List (List UInt8)
  | _, [] => []
  | s, body :: later =>
      (bif (due? body).isSome && (s.question? body).isNone then [body] else []) ++
        atOnce (s.take body).session later

def answers (s : Session) (bodies : List (List UInt8)) : List Json :=
  (s.exchanges bodies).map Prod.snd

/-- The ids of the questions among some frames. -/
def questions : Session → List (List UInt8) → List Json
  | _, [] => []
  | s, body :: later => (s.question? body).toList ++ questions (s.take body).session later

theorem afterAll_snoc (s : Session) (bodies : List (List UInt8)) (body : List UInt8) :
    s.afterAll (bodies ++ [body]) = ((s.afterAll bodies).take body).session := by
  simp [afterAll]

theorem exchanges_snoc (s : Session) (bodies : List (List UInt8)) (body : List UInt8) :
    s.exchanges (bodies ++ [body]) =
      s.exchanges bodies ++
        ((s.afterAll bodies).take body).answer?.toList.map fun answer => (body, answer) := by
  induction bodies generalizing s with
  | nil => simp [exchanges, afterAll]
  | cons first bodies ih => simp [exchanges, afterAll, ih, List.append_assoc]

theorem answers_snoc (s : Session) (bodies : List (List UInt8)) (body : List UInt8) :
    s.answers (bodies ++ [body]) =
      s.answers bodies ++ ((s.afterAll bodies).take body).answer?.toList := by
  simp [answers, exchanges_snoc, Function.comp_def]

/-- What is answered at once is answered under the id of its frame, and what holds no message is
refused. -/
theorem exchanges_due {s : Session} {bodies : List (List UInt8)} {body : List UInt8} {answer : Json}
    (h : (body, answer) ∈ s.exchanges bodies) :
    ∃ id, due? body = some id ∧ IsAnswer id answer ∧
      (isGarbled body = true → isRefusal answer = true) := by
  induction bodies generalizing s with
  | nil => exact nomatch h
  | cons first bodies ih =>
      rcases List.mem_append.mp h with now | later
      · obtain ⟨given, replies, same⟩ := List.mem_map.mp now
        obtain ⟨rfl, rfl⟩ := Prod.mk.inj same
        exact take_answer (Option.mem_toList.mp replies)
      · exact ih later

/-- Of the frames that are to be answered, each is answered at once or is a question. -/
theorem due_perm (s : Session) (bodies : List (List UInt8)) :
    (bodies.filterMap due?).Perm
      ((s.exchanges bodies).filterMap (fun exchange => due? exchange.1) ++ s.questions bodies) := by
  induction bodies generalizing s with
  | nil => exact List.Perm.refl _
  | cons body bodies ih =>
      have later := ih (s.take body).session
      cases take_meets s body with
      | answered id answer due answer? form garbled unasked =>
          simpa [exchanges, questions, answer?, unasked, due] using later
      | asked id due question silent =>
          simpa [exchanges, questions, silent, question, due] using
            (later.cons id).trans List.perm_middle.symm
      | passed due unasked silent =>
          simpa [exchanges, questions, silent, unasked, due] using later

/-- A session answers at once just the frames that are to be answered at once. -/
theorem exchanges_fst (s : Session) (bodies : List (List UInt8)) :
    (s.exchanges bodies).map Prod.fst = s.atOnce bodies := by
  induction bodies generalizing s with
  | nil => rfl
  | cons body bodies ih =>
      have later := ih (s.take body).session
      cases take_meets s body with
      | answered id answer due answer? form garbled unasked =>
          simp [exchanges, atOnce, answer?, due, unasked, later]
      | asked id due question silent => simp [exchanges, atOnce, silent, question, later]
      | passed due unasked silent => simp [exchanges, atOnce, silent, due, later]

/-- Two sessions that differ in what their pipelines do take a frame alike. -/
theorem take_same {s t : Session} (same : s.bare = t.bare) (body : List UInt8) :
    SameTurn (s.take body) (t.take body) ∧ s.question? body = t.question? body := by
  have first := take_bare s body
  have second := take_bare t body
  rw [← same] at second
  refine ⟨⟨first.1.symm.trans second.1, first.2.symm.trans second.2⟩, ?_⟩
  rw [← question?_bare s, ← question?_bare t, same]

end AsmDiagnostics.Session
