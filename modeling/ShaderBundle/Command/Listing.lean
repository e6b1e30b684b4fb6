import ShaderBundle.Bundle.Split
import ShaderBundle.Command.Failure
import ShaderBundle.Source.Disk

/-!
# Listings

The sources of a file's stages can be listed, each under a banner that tells where its lines come
from.

## Main definitions

* `banner` is the line above a stage's source.
* `listing` lists some blocks; `listFile` lists those of a file, or the one that is asked for.
-/

namespace ShaderBundle.Command

/-- The line above a source: its stage, its entry, and where its lines come from. -/
def banner (block : Block) : Text :=
  "// ---- ".toList ++ block.stage.name.toList ++ " stage: entry `".toList ++ block.entry ++
    "`, header ".toList ++ decimal block.headerLines ++ " lines, body ".toList ++
    block.body.text.toList ++ " ----\n".toList

/-- A text that ends with a line feed. -/
def closed (text : Text) : Text :=
  if text.getLast? = some '\n' then text else text ++ ['\n']

/-- The sources of some blocks under their banners. -/
def listing (blocks : List Block) : Text :=
  blocks.flatMap fun block => banner block ++ closed block.source

/-- The blocks of a bundle that are asked for. -/
def asked (only : Option Stage) (bundle : Bundle) : List Block :=
  bundle.blocks.filter fun block => only.all fun stage => block.stage = stage

/-- Lists the text of a file. -/
def listText (options : SplitOptions) (file text : Text) (only : Option Stage) :
    Except Failure Text :=
  match Bundle.split options ((Path.stem? file).getD "shader".toList) text with
  | .error error => .error { message := error.message.toList }
  | .ok bundle =>
    match only, asked only bundle with
    | some stage, [] => .error { message :=
        file ++ " has no ".toList ++ stage.name.toList ++ " stage".toList }
    | _, blocks => .ok (listing blocks)

/-- Lists a file. -/
def listFile {m : Type → Type} [Monad m] (disk : Disk m) (options : SplitOptions) (file : Text)
    (only : Option Stage) : m (Except Failure Text) := do
  match ← disk.read file with
  | .ok text => return listText options file text only
  | .error cause => return .error ⟨"failed to read ".toList ++ file, [cause.message]⟩

end ShaderBundle.Command
