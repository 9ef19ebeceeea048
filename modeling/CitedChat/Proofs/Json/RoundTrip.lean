import CitedChat.Proofs.Json.Restoring
import CitedChat.Proofs.Json.Tagging

/-!
Values that survive being written and read. A value that is restored from its tree is read back from
its text, in one pass and by way of a tree (`Decoder.Restores.parse`, `Decoder.Restores.parseTree`).
A format whose decoder restores all fitting values, is coherent and yields nothing but fitting
values keeps them apart and rewrites whatever it accepts once and for all (`Format.roundTrips`).
-/

set_option autoImplicit false

namespace CitedChat.Json

/-! ### Whole texts -/

namespace Decoder

variable {α : Type} {d : Decoder α}

theorem Restores.parse {tree : Tree} {x : α} (h : d.Restores depthLimit tree x)
    (hcoherent : d.Coherent) : d.parse tree.text = .ok x := by
  have hends : Ends [] := trivial
  have hread : d.ofText ⟨depthLimit, tree.print.length + 1⟩ (tree.print ++ []) = .ok (x, []) :=
    hcoherent (h.written .whole) h.readable (Nat.le_succ _) hends
  rw [List.append_nil] at hread
  exact Tree.runReader_text d.ofText hread

theorem Restores.parseTree {tree : Tree} {x : α} (h : d.Restores depthLimit tree x) :
    d.parseTree tree.text = .ok x := by
  simp only [Decoder.parseTree, Tree.parse_text h.readable, bind, Except.bind, decode, h.sorted]
  rfl

theorem Yields.parse {P : α → Prop} (h : d.Yields P) {raw : String} {x : α}
    (hparse : d.parse raw = .ok x) : P x := by
  rw [Decoder.parse, runReader] at hparse
  split at hparse
  · cases hparse
  · next y rest hread =>
    split at hparse
    · cases hparse
      exact h.ofText hread
    · cases hparse

theorem Yields.parseTree {P : α → Prop} (h : d.Yields P) {raw : String} {x : α}
    (hparse : d.parseTree raw = .ok x) : P x := by
  obtain ⟨tree, -, hparse⟩ := Except.bind_eq_ok hparse
  split at hparse
  · next y hdecode =>
    cases hparse
    exact h.ofTree hdecode
  · cases hparse

end Decoder

/-! ### Formats -/

/-- How values of a type are written and read, and which of them are within the range of their
numbers. -/
structure Format (α : Type) where
  toTree : α → Tree
  decoder : Decoder α
  Fits : α → Prop

namespace Format

variable {α : Type}

def text (f : Format α) (x : α) : String :=
  (f.toTree x).text

/-- Reads a text and writes its value again. -/
def rewrite (f : Format α) (parse : String → Except Error α) (raw : String) : Except Error String :=
  (parse raw).map f.text

/-- The two routes from a text to its value. -/
def routes (f : Format α) : List (String → Except Error α) :=
  [f.decoder.parse, f.decoder.parseTree]

/-- What is written is read back on both routes. Hence no two values have one text, and a text that
was accepted on either route and written again stays as it is. -/
structure RoundTrips (f : Format α) : Prop where
  parse_text : ∀ x, f.Fits x → ∀ parse ∈ f.routes, parse (f.text x) = .ok x
  text_injective : ∀ x y, f.Fits x → f.Fits y → f.text x = f.text y → x = y
  fits : ∀ parse ∈ f.routes, ∀ raw x, parse raw = .ok x → f.Fits x
  rewrite_rewrite : ∀ first ∈ f.routes, ∀ raw written, f.rewrite first raw = .ok written →
    ∀ second ∈ f.routes, f.rewrite second written = .ok written

theorem roundTrips {f : Format α} (hcoherent : f.decoder.Coherent)
    (hyields : f.decoder.Yields f.Fits)
    (hrestores : ∀ x, f.Fits x → f.decoder.Restores depthLimit (f.toTree x) x) : f.RoundTrips := by
  have hparse : ∀ x, f.Fits x → ∀ parse ∈ f.routes, parse (f.text x) = .ok x := by
    intro x hfits parse hroute
    obtain rfl | hroute := List.mem_cons.1 hroute
    · exact (hrestores x hfits).parse hcoherent
    · obtain rfl := List.mem_singleton.1 hroute
      exact (hrestores x hfits).parseTree
  have hfits : ∀ parse ∈ f.routes, ∀ raw x, parse raw = .ok x → f.Fits x := by
    intro parse hroute raw x hread
    obtain rfl | hroute := List.mem_cons.1 hroute
    · exact hyields.parse hread
    · obtain rfl := List.mem_singleton.1 hroute
      exact hyields.parseTree hread
  refine ⟨hparse, fun x y hx hy htext ↦ ?_, hfits, ?_⟩
  · have hback := hparse x hx f.decoder.parse List.mem_cons_self
    rw [htext, hparse y hy f.decoder.parse List.mem_cons_self] at hback
    exact (Except.ok.inj hback).symm
  · intro first hfirst raw written hwritten second hsecond
    obtain ⟨x, hread, rfl⟩ := Except.map_eq_ok hwritten
    rw [rewrite, hparse x (hfits first hfirst raw x hread) second hsecond]
    rfl

end Format

end CitedChat.Json
