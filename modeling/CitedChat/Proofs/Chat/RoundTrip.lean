import CitedChat.Chat.Format
import CitedChat.Proofs.Transcript.RoundTrip

/-!
What a session stores and tells survives being written and read: actions, conversations, outcomes,
events and counters. Their numbers have to fit the words that hold them; those of any that are read
do.
-/

set_option autoImplicit false

namespace CitedChat

open Json

variable {depth : Nat}

namespace Action

/-- The numbers of all sources fit. -/
def Fits : Action → Prop
  | .addTurn turn => turn.Fits
  | .appendText _ => True
  | .appendSource source => source.Fits

theorem restores_toTree {action : Action} (hfits : action.Fits) :
    decoder.Restores (depth + 5) action.toTree action := by
  unfold decoder
  cases action with
  | addTurn turn =>
    refine Decoder.Tagged.restores_contents (by simp) (by simp [findName]; rfl) ?_
    exact (Turn.restores_toTree hfits).map addTurn
  | appendText fragment =>
    refine Decoder.Tagged.restores_contents (by simp) (by simp [findName]; rfl) ?_
    exact (Decoder.restores_string fragment).map appendText
  | appendSource source =>
    refine Decoder.Tagged.restores_contents (by simp) (by simp [findName]; rfl) ?_
    exact (Source.restores_toTree hfits).map appendSource

theorem coherent_decoder : decoder.Coherent := by
  unfold decoder
  refine Decoder.Tagged.coherent_decoder (List.forall_mem_cons.2 ⟨?_, List.forall_mem_cons.2
    ⟨?_, List.forall_mem_singleton.2 ?_⟩⟩)
  · exact Turn.coherent_decoder.map addTurn
  · exact Decoder.coherent_string.map appendText
  · exact Source.coherent_decoder.map appendSource

theorem yields_decoder : decoder.Yields Fits := by
  unfold decoder
  refine Decoder.Tagged.yields_decoder (List.forall_mem_cons.2 ⟨⟨nofun, ?_⟩, List.forall_mem_cons.2
    ⟨⟨nofun, ?_⟩, List.forall_mem_singleton.2 ⟨nofun, ?_⟩⟩⟩)
  · exact Turn.yields_decoder.map fun _ h ↦ h
  · exact (Decoder.yields_any _).map fun _ _ ↦ trivial
  · exact Source.yields_decoder.map fun _ h ↦ h

def format : Format Action := ⟨toTree, decoder, Fits⟩

theorem roundTrips : format.RoundTrips :=
  Format.roundTrips coherent_decoder yields_decoder fun _ hfits ↦ restores_toTree hfits

end Action

namespace Conversation

def Fits (c : Conversation) : Prop :=
  ∀ turn ∈ c.turns, turn.Fits

theorem restores_toTree {c : Conversation} (hfits : c.Fits) :
    decoder.Restores (depth + 5) c.toTree c :=
  (Decoder.Restores.list fun turn hmem ↦
    Turn.restores_toTree (hfits turn hmem)).map Conversation.mk

theorem coherent_decoder : decoder.Coherent :=
  Turn.coherent_decoder.list.map _

theorem yields_decoder : decoder.Yields Fits :=
  Turn.yields_decoder.list.map fun _ h ↦ h

def format : Format Conversation := ⟨toTree, decoder, Fits⟩

theorem roundTrips : format.RoundTrips :=
  Format.roundTrips coherent_decoder yields_decoder fun _ hfits ↦ restores_toTree hfits

end Conversation

namespace Outcome

theorem restores_toTree (outcome : Outcome) :
    decoder.Restores (depth + 1) outcome.toTree outcome := by
  unfold decoder
  cases outcome with
  | failed detail =>
    refine Decoder.Tagged.restores_contents (by simp)
      (by simp [findName, plain, kind]; exact ⟨rfl, rfl⟩) ?_
    exact (Decoder.restores_string detail).map failed
  | _ => exact Decoder.Tagged.restores_alone (by simp [findName, plain, kind]; rfl)

theorem coherent_decoder : decoder.Coherent := by
  have hplain (outcome : Outcome) (label : String) :
      (plain outcome label).2.2.Coherent := (Decoder.coherent_bare _).map _
  unfold decoder
  refine Decoder.Tagged.coherent_decoder ?_
  simp [hplain, Decoder.coherent_string.map failed]

theorem yields_decoder : decoder.Yields fun _ ↦ True :=
  Decoder.yields_any decoder

def format : Format Outcome := ⟨toTree, decoder, fun _ ↦ True⟩

theorem roundTrips : format.RoundTrips :=
  Format.roundTrips coherent_decoder yields_decoder fun outcome _ ↦ restores_toTree outcome

end Outcome

namespace Event

def Fits : Event → Prop
  | .turnStart generation | .decodeError generation _ | .warning generation _
  | .turnEnd generation _ => generation < Word.limit
  | .updated generation conversation => generation < Word.limit ∧ conversation.Fits
  | .error _ => True

section Fields

variable {t : Decoder.SelfTagged Event} {α : Type} {key name field : String} {d : Decoder α}
  {tree : Tree} {x : α}

/-- An event of one field. -/
theorem restores_field {f : α → Event} (hknown : findName t.known key =
      .ok ((Decoder.record (label name) (.cons field d .nil)).map fun (x, ()) ↦ f x))
    (hkeys : [t.tagKey, field].Nodup) (h : d.Restores depth tree x) :
    t.decoder.Restores (depth + 1) (.object [(t.tagKey, .string key), (field, tree)]) (f x) := by
  have hother : field ≠ t.tagKey := (List.pairwise_pair.1 hkeys).symm
  refine Decoder.SelfTagged.restores_fields (x, ()) (by simp [Fields.names])
    (by simpa [Fields.names] using hother.symm) hknown (by exact hkeys)
    (by simp [Fields.names]) ?_
  simp [Fields.Restores, Decoder.RestoresField, Tree.lookup_cons, Tree.lookup_nil, h]

/-- An event of a generation and one thing more. -/
theorem restores_generationAnd {f : Nat → α → Event}
    (hknown : findName t.known key = .ok (generationAnd name field d f))
    (hkeys : [t.tagKey, "generation", field].Nodup) {generation : Nat}
    (hfits : generation < Word.limit) (h : d.Restores depth tree x) :
    t.decoder.Restores (depth + 1) (.object [(t.tagKey, .string key),
      ("generation", .natural generation), (field, tree)]) (f generation x) := by
  have hgeneration : Event.generation.Restores depth (.natural generation) generation :=
    Decoder.restores_natural "u64" hfits
  obtain ⟨htag, hfield⟩ := List.nodup_cons.1 hkeys
  have hother : field ≠ "generation" := (List.pairwise_pair.1 hfield).symm
  refine Decoder.SelfTagged.restores_fields (generation, x, ()) (by exact hfield) (by exact htag)
    hknown (by exact hkeys) (by simp [Fields.names]) ?_
  simp [Fields.Restores, Decoder.RestoresField, Tree.lookup_cons, Tree.lookup_nil, h, hgeneration,
    hother]

end Fields

theorem restores_toTree {event : Event} (hfits : event.Fits) :
    decoder.Restores (depth + 6) event.toTree event := by
  unfold decoder
  cases event with
  | turnStart generation =>
    exact restores_field (by simp [findName, kind]; rfl) (by simp)
      (Decoder.restores_natural "u64" hfits)
  | updated generation conversation =>
    exact restores_generationAnd (by simp [findName, kind]; rfl) (by simp) hfits.1
      (Conversation.restores_toTree hfits.2)
  | decodeError generation message =>
    exact restores_generationAnd (by simp [findName, kind]; rfl) (by simp) hfits
      (Decoder.restores_string message)
  | warning generation message =>
    exact restores_generationAnd (by simp [findName, kind]; rfl) (by simp) hfits
      (Decoder.restores_string message)
  | turnEnd generation outcome =>
    exact restores_generationAnd (by simp [findName, kind]; rfl) (by simp) hfits
      (Outcome.restores_toTree outcome)
  | error message =>
    exact restores_field (by simp [findName, kind]; rfl) (by simp) (Decoder.restores_string message)

theorem coherent_decoder : decoder.Coherent :=
  Decoder.SelfTagged.coherent_decoder

theorem yields_generationAnd {name field : String} {α : Type} {P : α → Prop} {d : Decoder α}
    (h : d.Yields P) {f : Nat → α → Event}
    (hf : ∀ generation x, generation < Word.limit → P x → (f generation x).Fits) :
    (generationAnd name field d f).Yields Fits := by
  refine (Decoder.yields_record _ (.cons (Decoder.yields_natural _) (.cons h .nil))).map ?_
  exact fun values h ↦ hf _ _ h.1 h.2.1

theorem yields_decoder : decoder.Yields Fits := by
  have hmessage := Decoder.yields_any Decoder.string
  unfold decoder
  refine Decoder.SelfTagged.yields_decoder ?_
  simp only [List.forall_mem_cons]
  refine ⟨?_, ?_, ?_, ?_, ?_, ?_, nofun⟩
  · refine (Decoder.yields_record _ (.cons (Decoder.yields_natural _) .nil)).map ?_
    exact fun values h ↦ h.1
  · exact yields_generationAnd Conversation.yields_decoder fun _ _ hword hfits ↦ ⟨hword, hfits⟩
  · exact yields_generationAnd hmessage fun _ _ hword _ ↦ hword
  · exact yields_generationAnd hmessage fun _ _ hword _ ↦ hword
  · exact yields_generationAnd Outcome.yields_decoder fun _ _ hword _ ↦ hword
  · exact (Decoder.yields_any _).map fun _ _ ↦ trivial

def format : Format Event := ⟨toTree, decoder, Fits⟩

theorem roundTrips : format.RoundTrips :=
  Format.roundTrips coherent_decoder yields_decoder fun _ hfits ↦ restores_toTree hfits

end Event

namespace AssemblerStats

structure Fits (stats : AssemblerStats) : Prop where
  fragments : stats.fragments < Word.limit
  sources : stats.sources < Word.limit
  rejected : stats.rejected < Word.limit
  ignored : stats.ignored < Word.limit

theorem restores_toTree {stats : AssemblerStats} (hfits : stats.Fits) :
    decoder.Restores (depth + 1) stats.toTree stats := by
  have hcount {n : Nat} (hn : n < Word.limit) :
      (Decoder.natural "usize").Restores depth (.natural n) n :=
    Decoder.restores_natural "usize" hn
  have hfragments := hcount hfits.fragments
  have hsources := hcount hfits.sources
  have hrejected := hcount hfits.rejected
  have hignored := hcount hfits.ignored
  unfold decoder
  refine Decoder.Restores.map
    (x := (stats.fragments, stats.sources, stats.rejected, stats.ignored, ()))
    (Decoder.restores_record _ (by simp [Fields.names]) (by simp) ?_ ?_) _
  · simp [Fields.names]
  · simp [Fields.Restores, Decoder.RestoresField, Tree.lookup_cons, Tree.lookup_nil, hfragments,
      hsources, hrejected, hignored]

theorem coherent_decoder : decoder.Coherent := by
  have hcount := Decoder.coherent_natural "usize"
  unfold decoder
  refine (Decoder.coherent_record _ ?_).map _
  exact ⟨hcount, hcount, hcount, hcount, trivial⟩

theorem yields_decoder : decoder.Yields Fits := by
  have hcount := Decoder.yields_natural "usize"
  unfold decoder
  refine (Decoder.yields_record _ (.cons hcount (.cons hcount (.cons hcount
    (.cons hcount .nil))))).map ?_
  exact fun values h ↦ ⟨h.1, h.2.1, h.2.2.1, h.2.2.2.1⟩

def format : Format AssemblerStats := ⟨toTree, decoder, Fits⟩

theorem roundTrips : format.RoundTrips :=
  Format.roundTrips coherent_decoder yields_decoder fun _ hfits ↦ restores_toTree hfits

end AssemblerStats

/-- All that a session stores and tells survives being written and read. -/
theorem session_formats_roundTrip :
    Turn.format.RoundTrips ∧ Action.format.RoundTrips ∧ Conversation.format.RoundTrips ∧
      Outcome.format.RoundTrips ∧ Event.format.RoundTrips ∧ AssemblerStats.format.RoundTrips :=
  ⟨Turn.roundTrips, Action.roundTrips, Conversation.roundTrips, Outcome.roundTrips,
    Event.roundTrips, AssemblerStats.roundTrips⟩

end CitedChat
