import StackCompiler.Descriptor.Generate
import StackCompiler.Machine

/-!
# Loading descriptors

The portal reads its descriptor from a text that it is given, or else from a file.
-/

namespace StackCompiler.Descriptor

open Machine

def logger : String := "stackgen.services.descriptor_service"

/-- The text of a descriptor: the one given inline unless it is empty, or that of a file. -/
def sourceText (inlineText : Option String) (path : Option Path) : Action String := do
  match inlineText.filter (!·.isEmpty), path with
  | some text, _ => return text
  | none, some path =>
    unless ← exists? path do throw (.noDescriptorFile path.text)
    read path
  | none, none => throw .noDescriptorSource

def load (inlineText : Option String) (path : Option Path) : Action Descriptor := do
  let d ← Session.ofExcept (ofText (← sourceText inlineText path))
  let count := d.services.length
  Session.note ⟨.info, logger, s!"Loaded descriptor for {d.deploymentId} with {count} services",
    none, none, none⟩
  return d

end StackCompiler.Descriptor
