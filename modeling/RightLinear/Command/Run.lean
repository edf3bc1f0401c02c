import RightLinear.Command.Basic

/-! # Running commands

A command runs on a file tree with some variables. What is left is the printed text, the
tree, and the failure if there was one.
-/

namespace RightLinear
namespace Command

/-- Everything that a command can see or change. -/
structure World where
  environment : Environment
  working : Place
  tree : FileTree
  printed : String

abbrev OnTree := EStateM Failure World

instance : Host OnTree where
  working world := .ok world.working world
  content? place world := .ok (world.tree.content? place) world
  environment _ world := .ok world.environment world
  load path world :=
    match world.tree.find world.working path with
    | .error fault => .error (.notOpened path fault) world
    | .ok (.folder _) => .error (.notRead path .isFolder) world
    | .ok (.file content) => .ok content world
  makeFolder path world :=
    match world.tree.makeFolder world.working path with
    | (made, none) => .ok () { world with tree := made }
    | (made, some fault) => .error (.folderNotMade path fault) { world with tree := made }
  create path world :=
    match world.tree.outputPlace world.working path with
    | .error fault => .error (.notWritable path fault) world
    | .ok place =>
        .ok (fun text => modify fun opened =>
            { opened with tree := opened.tree.put place (.file text.toUTF8) })
          { world with tree := world.tree.put place (.file .empty) }
  print text := modify fun world => { world with printed := world.printed ++ text }

structure Outcome where
  printed : String
  tree : FileTree
  failure? : Option Failure

def Outcome.ofResult : EStateM.Result Failure World Unit → Outcome
  | .ok () world => ⟨world.printed, world.tree, none⟩
  | .error failure world => ⟨world.printed, world.tree, some failure⟩

/-- Runs a request. -/
def Invocation.run (invocation : Invocation) (environment : Environment)
    (tree : FileTree) (working : Place) : Outcome :=
  .ofResult ((invocation.perform : OnTree Unit) ⟨environment, working, tree, ""⟩)

end Command
end RightLinear
