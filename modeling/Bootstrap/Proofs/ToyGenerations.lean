import Bootstrap.Proofs.EnginesAgree
import Bootstrap.Proofs.Occurrences
import Bootstrap.Proofs.ScratchNames
import Bootstrap.Proofs.StageFailures
import Bootstrap.Proofs.WrittenText

/-!
Bootstrapping a toy compiler. A source that numbers itself comes out with the number of each
generation in its place, so that no two generations are the same; a source without a place for it
comes out as it went in.
-/

namespace Bootstrap

namespace Text

end Text

namespace Toy

def generationText (source : String) (stage : Stage) : String :=
  Text.replace source Engine.placeholder (toString stage.index)

/-- No toy compiler turns the source down, whatever its tag. -/
structure Welcome (source : String) : Prop where
  noError : ¬Engine.errorMark.toList <:+: source.toList
  noRefusal : ∀ line ∈ Text.lines source, ¬"#fail-under".toList <+: (Text.trim line).toList

theorem Welcome.not_refused {source : String} (welcome : Welcome source) (tag : String) :
    Engine.refusesUnder tag source = false := by
  unfold Engine.refusesUnder
  rw [List.any_eq_false]
  intro line member refused
  apply welcome.noRefusal line member
  rw [of_decide_eq_true refused, String.toList_append]
  exact ⟨" ".toList ++ tag.toList, by simp⟩

theorem Welcome.compile {source : String} (welcome : Welcome source) (tag : String)
    (engine : Engine) (input : engine.input = Utf8.encode source) :
    Engine.compile tag engine = (.ok (.printed "#t"),
      { engine with
        output := engine.output ++ Utf8.encode (Engine.fillPlaceholder tag source) }) := by
  have unmarked : Text.contains source Engine.errorMark = false := by
    rw [Text.contains, Bool.eq_false_iff, Ne, Text.occursIn_iff]
    exact welcome.noError
  rw [Engine.compile, input, Utf8.decodeLossy_encode]
  simp only [unmarked, welcome.not_refused tag, Bool.false_eq_true, if_false]

/-- The text of each generation is a compiler that makes the text of the next one. -/
def Continues (source : String) : Prop :=
  ∀ stage, ∃ tag, Module.parse (Utf8.encode (generationText source stage)) = .ok (.compiler tag) ∧
    ∀ above, stage.next? = some above →
      Engine.fillPlaceholder tag source = generationText source above

section

variable {settings : Settings} {source : String} {reading : Reading}

end

section

variable {source : String} {front : List Char} {pieces : List (List Char)}
  (replaced : ∀ value, Text.replaceFrom Engine.placeholder.toList value 0 source.toList =
    value.intercalate (front :: pieces))

include replaced

end

section

variable {settings : Settings} {source : String} {reading : Reading}
  (generations : ∀ stage, ∃ origin, Basis.generation ⟨oracle none false, settings⟩ reading stage =
    .ok ⟨stage, origin, Utf8.encode (generationText source stage)⟩)
  {selection : Selection} (checks : selection.stage3 = true)

include generations checks

end

end Toy

end Bootstrap
