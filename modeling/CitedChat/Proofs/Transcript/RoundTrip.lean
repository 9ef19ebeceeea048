import CitedChat.Proofs.Json.RoundTrip
import CitedChat.Proofs.Wire.Citation

/-!
Sources and turns survive being written and read. Their numbers have to fit the words that hold them
(`Source.Fits`, `Turn.Fits`); those of any that are read do.
-/

set_option autoImplicit false

namespace CitedChat

open Json

variable {depth : Nat}

namespace Source

theorem restores_toTree {source : Source} (hfits : source.Fits) :
    decoder.Restores (depth + 1) source.toTree source := by
  have hordinal :
      (Decoder.natural "usize").Restores depth (.natural source.ordinal) source.ordinal :=
    Decoder.restores_natural "usize" hfits.ordinal
  have hindex : Decoder.signed64.Restores depth (.integer source.index) source.index :=
    Decoder.restores_signed64 hfits.index
  unfold decoder
  refine Decoder.Restores.map
    (x := (source.ordinal, source.index, source.citation, source.url, source.originText, ()))
    (Decoder.restores_record _ (by simp [Fields.names]) (by simp) ?_ ?_) _
  · simp [Fields.names]
  · simp [Fields.Restores, Decoder.RestoresField, Tree.lookup_cons, Tree.lookup_nil, hordinal,
      hindex, Decoder.restores_string]

theorem coherent_decoder : decoder.Coherent := by
  unfold decoder
  refine (Decoder.coherent_record _ ?_).map _
  exact ⟨Decoder.coherent_natural _, Decoder.coherent_signed64,
    Decoder.coherent_string, Decoder.coherent_string, Decoder.coherent_string, trivial⟩

theorem yields_decoder : decoder.Yields Fits := by
  unfold decoder
  have htext := Decoder.yields_any Decoder.string
  refine (Decoder.yields_record _ (.cons (Decoder.yields_natural _) (.cons Decoder.yields_signed64
    (.cons htext (.cons htext (.cons htext .nil)))))).map ?_
  exact fun values h ↦ ⟨h.1, h.2.1⟩

end Source

namespace Turn

/-- The numbers of all sources fit. -/
def Fits (turn : Turn) : Prop :=
  ∀ source ∈ turn.sources, source.Fits

theorem restores_toTree {turn : Turn} (hfits : turn.Fits) :
    decoder.Restores (depth + 4) turn.toTree turn := by
  unfold decoder decoderWith
  cases turn with
  | user text =>
    refine Decoder.restores_alternatives (a := Decoder.holding .string .user) rfl ?_
    exact (Decoder.restores_string text).map user
  | assistant text sources =>
    have hsources : Source.decoder.list.Restores (depth + 2)
        (.array (sources.map Source.toTree)) sources :=
      Decoder.Restores.list fun source hmem ↦ Source.restores_toTree (hfits source hmem)
    refine Decoder.restores_alternatives (by simp [findName]; rfl) ?_
    refine Decoder.restores_holdingTuple _ (text, sources, ()) ?_ _
    exact ⟨Decoder.restores_string text, hsources, rfl⟩

theorem coherent_decoder : decoder.Coherent := by
  unfold decoder decoderWith
  refine Decoder.coherent_alternatives (List.forall_mem_cons.2
    ⟨Decoder.coherent_holding Decoder.coherent_string _,
      List.forall_mem_singleton.2 (Decoder.coherent_holdingTuple _ ?_ _)⟩)
  exact ⟨Decoder.coherent_string, Source.coherent_decoder.list, trivial⟩

theorem yields_decoder : decoder.Yields Fits := by
  unfold decoder decoderWith
  refine Decoder.yields_alternatives (List.forall_mem_cons.2 ⟨?_, List.forall_mem_singleton.2 ?_⟩)
  · exact Decoder.yields_holding (Decoder.yields_any _) fun text _ ↦ List.forall_mem_nil _
  · exact Decoder.yields_holdingTuple _
      (.cons (Decoder.yields_any _) (.cons Source.yields_decoder.list .nil)) fun values h ↦ h.2.1

def format : Format Turn := ⟨toTree, decoder, Fits⟩

theorem roundTrips : format.RoundTrips :=
  Format.roundTrips coherent_decoder yields_decoder fun _ hfits ↦ restores_toTree hfits

end Turn

end CitedChat
