import CitedChat.Proofs.Chat.Assembly
import CitedChat.Proofs.Chat.Listening

/-!
A streamed turn reads what it hears: each payload is folded as it comes, and the conversation, what
subscribers are told and the ending are those of the assembled answer (`World.Follows`). One payload
keeps this up (`Follows.payload`, `follows_last`), and so does a whole script (`readStream_follows`)
and the turn that reads it (`runStreaming_follows`).
-/

set_option autoImplicit false

namespace CitedChat

/-- How a turn ends whose answer is in some state, where an open answer ends as `other`. -/
def AssemblerState.ending (other : Ending) : AssemblerState → Ending
  | .streaming => other
  | .finished => .outcome .finished
  | .halted => .outcome .halted

namespace World

/-- A turn that ended after a delivery has assembled it: the conversation is the assembled one, the
conversations in between were told, an answer that is open leaves the ending to the delivery, and
the settings of the session are as they were. -/
structure Follows (a : Assembler) (w : World) (heard : Delivery) (ended : World × Ending) :
    Prop where
  assembled : ∃ result, assembleWith a w.conversation heard.payloads = .ok result ∧
    ended.1.conversation = result.conversation ∧ ended.2 = result.state.ending heard.ending
  snapshots : ended.1.snapshots = w.snapshots ++ a.reached w.conversation heard.payloads
  settings : SameSettings w ended.1

variable {a : Assembler} {w v : World}

/-- A turn that hears no payload leaves the conversation alone. -/
theorem follows_nothing (hopen : a.isDone = false) (hquiet : Quiet w v)
    (hsettings : SameSettings w v) (ending : Ending) :
    Follows a w ⟨[], ending⟩ (v, ending) where
  assembled := by
    refine ⟨_, rfl, hquiet.conversation, ?_⟩
    rw [(a.isDone_eq_false_iff).1 hopen]
    rfl
  snapshots := by rw [hquiet.snapshots, Assembler.reached, List.append_nil]
  settings := hsettings

theorem follows_interrupted (hopen : a.isDone = false) (f : Flight) (i : Interrupt) :
    Follows a w ⟨[], (w.interrupted f i).2⟩ (w.interrupted f i) :=
  follows_nothing hopen (quiet_interrupted w f i) (sameSettings_interrupted w f i) _

theorem Follows.of_undisturbed {heard : Delivery} {ended : World × Ending} (h : Undisturbed w v)
    (hfollows : Follows a v heard ended) : Follows a w heard ended where
  assembled := by
    rw [← h.conversation]
    exact hfollows.assembled
  snapshots := by
    rw [← h.conversation, ← h.quiet.snapshots]
    exact hfollows.snapshots
  settings := h.sameSettings.trans hfollows.settings

section Payloads

variable {f : Flight} {raw : String} {next : Conversation}

/-- A payload that leaves the answer open is followed by the rest. -/
theorem Follows.payload {heard : Delivery} {ended : World × Ending}
    (happly : w.conversation.applyAll (Directive.actions (a.feed raw).1) = .ok next)
    (hopen : (a.feed raw).2.isDone = false)
    (hrest : Follows (a.feed raw).2 (w.revise next (report f (a.feed raw).1 next)) heard ended) :
    Follows a w ⟨raw :: heard.payloads, heard.ending⟩ ended where
  assembled := by
    rw [assembleWith_cons happly, hopen]
    exact hrest.assembled
  snapshots := by
    rw [hrest.snapshots, snapshots_revise, filterMap_report, conversation_revise, List.append_assoc,
      Assembler.reached_cons happly]
  settings := (sameSettings_revise w next _).trans hrest.settings

/-- A payload that ends the answer ends the turn. -/
theorem follows_last
    (happly : w.conversation.applyAll (Directive.actions (a.feed raw).1) = .ok next)
    (hdone : (a.feed raw).2.isDone = true) (heard : Delivery)
    (hquiet : Quiet (w.revise next (report f (a.feed raw).1 next)) v)
    (hsettings : SameSettings w v) :
    Follows a w ⟨raw :: heard.payloads, heard.ending⟩
      (v, (a.feed raw).2.state.ending heard.ending) where
  assembled := by
    refine ⟨⟨next, (a.feed raw).2.state, (a.feed raw).2.stats⟩, ?_, hquiet.conversation, rfl⟩
    rw [assembleWith_cons happly, hdone]
    rfl
  snapshots := by
    rw [hquiet.snapshots, snapshots_revise, filterMap_report, Assembler.reached_cons happly,
      Assembler.reached_of_isDone _ hdone, List.append_nil]
  settings := hsettings

/-- Once a payload is folded, the turn goes on with the rest or ends with the answer. -/
theorem follows_fold
    (happly : w.conversation.applyAll (Directive.actions (a.feed raw).1) = .ok next)
    (heard : Delivery) (ended : World × Ending)
    (hrest : (a.feed raw).2.isDone = false →
      Follows (a.feed raw).2 (w.revise next (report f (a.feed raw).1 next)) heard ended) :
    Follows a w ⟨raw :: heard.payloads, heard.ending⟩
      (match (a.feed raw).2.state with
        | .streaming => ended
        | .finished => (w.revise next (report f (a.feed raw).1 next), .outcome .finished)
        | .halted =>
          ((w.revise next (report f (a.feed raw).1 next)).warn f haltedText,
            .outcome .halted)) := by
  cases hstate : (a.feed raw).2.state with
  | streaming =>
    have hopen : (a.feed raw).2.isDone = false := (Assembler.isDone_eq_false_iff _).2 hstate
    exact Follows.payload happly hopen (hrest hopen)
  | finished =>
    have hdone : (a.feed raw).2.isDone = true := by rw [Assembler.isDone, hstate]; rfl
    have hlast := follows_last (f := f) happly hdone heard (.refl _) (sameSettings_revise w next _)
    rw [hstate] at hlast
    exact hlast
  | halted =>
    have hdone : (a.feed raw).2.isDone = true := by rw [Assembler.isDone, hstate]; rfl
    have hlast := follows_last (f := f) happly hdone heard (quiet_warn _ f haltedText) ⟨rfl⟩
    rw [hstate] at hlast
    exact hlast

end Payloads

/-- Reading a stream is assembling what is delivered. -/
theorem readStream_follows (f : Flight) (polling : Bool) (items : List Item)
    (hanswer : w.conversation.EndsWithAnswer) (hopen : a.isDone = false) :
    Follows a w (listen f polling items w) (readStream f polling items a w) := by
  -- The answer stays open and at the end of the conversation as long as the reading goes on.
  induction items generalizing polling a w with
  | nil =>
    simp only [listen, readStream]
    cases (if polling then none else w.interrupt? f) with
    | some i => exact follows_interrupted hopen f i
    | none =>
      exact follows_nothing hopen (quiet_warn w f closedText) (sameSettings_emit w _) _
  | cons item rest ih =>
    simp only [listen, readStream]
    cases (if polling then none else w.interrupt? f) with
    | some i => exact follows_interrupted hopen f i
    | none =>
      cases item with
      | act act =>
        have hact := undisturbed_perform w f act
        dsimp only
        rcases hperform : w.perform f act with ⟨v, _ | i⟩ <;> rw [hperform] at hact <;> dsimp only
        · refine Follows.of_undisturbed hact (ih true ?_ hopen)
          rw [hact.conversation]
          exact hanswer
        · exact Follows.of_undisturbed hact (follows_interrupted hopen f i)
      | opened => exact ih false hanswer hopen
      | fail error =>
        exact follows_nothing hopen (quiet_failed w error) (sameSettings_emit w _) _
      | payload raw =>
        obtain ⟨next, happly, hnext⟩ := hanswer.applyAll (a.isAppend_of_feed raw)
        dsimp only
        split
        · exact follows_nothing hopen (.refl w) (.refl w) _
        · have hscene := sameScene_revise w next (report f (a.feed raw).1 next)
          have hheard := hscene.listen f false rest
          rw [fold_eq w f happly, ← hheard]
          exact follows_fold happly _ _ (ih false hnext)

/-- A streamed turn assembles what its script delivers. -/
theorem runStreaming_follows (f : Flight) (transport : Transport) (request : List Turn)
    (hanswer : w.conversation.EndsWithAnswer) :
    Follows w.assembler w (listen f false (transport.script request) w)
      (w.runStreaming f transport request) := by
  have hopen : w.assembler.isDone = false := rfl
  rw [runStreaming_eq]
  cases hinterrupt : w.interrupt? f with
  | some i =>
    rw [listen_of_interrupt hinterrupt]
    exact follows_interrupted hopen f i
  | none =>
    have hscene : SameScene w { w with requests := w.requests.push request } := ⟨rfl, rfl⟩
    have hread := readStream_follows (w := { w with requests := w.requests.push request }) f true
      (transport.script request) hanswer hopen
    rw [listen_of_none hinterrupt, ← hscene.listen]
    exact Follows.of_undisturbed (undisturbed_asking w request) hread

end World

end CitedChat
