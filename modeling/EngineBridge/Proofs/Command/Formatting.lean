import EngineBridge.Command.Run
import EngineBridge.Proofs.Frame.Stability
import EngineBridge.Proofs.Json.Kept
import EngineBridge.Proofs.Json.Pretty
/-!
# Printing what an engine answers

The texts of the reference engine are canonical (`Canonical`), and a command prints such a text as
it is or on lines.  What stands on lines is the same text with blanks added outside of its strings,
and it stands for the same value (`pretty_adds_blanks`).
-/

namespace EngineBridge.Command

/-- A text is the canonical one of a value that can be read. -/
structure Canonical (text : String) (value : Json) : Prop where
  is : text = value.text
  /-- Numbers fit, members are in order, and no more is nested than may be opened. -/
  kept : Json.Kept Json.greatestDepth value

variable {text : String} {value : Json}

theorem canonical_of_decode {tag : String} {frame : List UInt8}
    (decoded : Frame.decode tag frame = .ok text) : ∃ value, Canonical text value := by
  obtain ⟨-, -, _, _, value, -, read, is⟩ := Frame.decode_ok decoded
  exact ⟨value, is, Json.kept_of_read read⟩

namespace Canonical

theorem readText (canonical : Canonical text value) : Json.readText text = .ok value.reread := by
  rw [canonical.is]
  exact Json.readText_text canonical.kept

theorem readText_whole (canonical : Canonical text value) (whole : value.Whole) :
    Json.readText text = .ok value := by
  rw [canonical.readText, whole.reread]

/-- Without doubles a text is canonical if it is that of the value which is read from it. -/
theorem iff_of_whole (whole : value.Whole) :
    Canonical text value ↔ Json.readText text = .ok value ∧ text = value.text := by
  constructor
  · intro canonical
    exact ⟨canonical.readText_whole whole, canonical.is⟩
  · rintro ⟨read, is⟩
    exact ⟨is, Json.kept_of_readText read⟩

/-- On lines stands what is read from the text. -/
theorem formatJson_pretty (canonical : Canonical text value) :
    formatJson text false = .ok value.reread.pretty := by
  unfold formatJson
  rw [canonical.readText]
  rfl

end Canonical

/-- **Printing on lines only adds blanks.**  A canonical text without doubles is printed as it is,
and can be printed on lines; without the blanks outside of its strings the text on lines is the
canonical one again, and the same value is read from both. -/
theorem pretty_adds_blanks (canonical : Canonical text value) (whole : value.Whole) :
    formatJson text true = .ok text ∧
      ∃ shown, formatJson text false = .ok shown ∧ Json.squeeze shown = text ∧
        Json.readText shown = .ok value ∧ Json.readText text = .ok value := by
  have shown := canonical.formatJson_pretty
  have read := Json.readText_pretty canonical.kept
  rw [whole.reread] at shown read
  exact ⟨rfl, value.pretty, shown, (Json.squeeze_pretty value).trans canonical.is.symm, read,
    canonical.readText_whole whole⟩

/-- An object in which strings look like layout. -/
def layoutInStrings : Json :=
  .object [("a b", .array []), ("c", .array [.number (.integer (-1)), .string "\" \x7b ,\n\x7d"])]

theorem layoutInStrings_whole : layoutInStrings.Whole :=
  .object (List.forall_mem_cons.2 ⟨.array nofun, List.forall_mem_singleton.2
    (.array (List.forall_mem_cons.2 ⟨.integer _, List.forall_mem_singleton.2 (.string _)⟩))⟩)

theorem pretty_adds_blanks_layoutInStrings :
    let text := "\x7b\"a b\":[],\"c\":[-1,\"\\\" \x7b ,\\n\x7d\"]\x7d"
    let shown :=
      "\x7b\n  \"a b\": [],\n  \"c\": [\n    -1,\n    \"\\\" \x7b ,\\n\x7d\"\n  ]\n\x7d"
    Canonical text layoutInStrings ∧ layoutInStrings.Whole ∧ formatJson text true = .ok text ∧
      formatJson text false = .ok shown ∧ Json.squeeze shown = text ∧
      Json.readText shown = .ok layoutInStrings := by
  intro text shown
  have whole := layoutInStrings_whole
  have canonical : Canonical text layoutInStrings :=
    (Canonical.iff_of_whole whole).2 ⟨by rfl, by decide +kernel⟩
  have pretty : layoutInStrings.pretty = shown := by decide +kernel
  obtain ⟨compact, shown', printed, squeezed, reads, -⟩ := pretty_adds_blanks canonical whole
  have same : shown' = shown := by
    have printed' := canonical.formatJson_pretty
    rw [whole.reread, pretty] at printed'
    exact Except.ok.inj (printed.symm.trans printed')
  subst same
  exact ⟨canonical, whole, compact, printed, squeezed, reads⟩

end EngineBridge.Command
