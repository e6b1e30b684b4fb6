import ShaderBundle.Graphics.Backend

/-!
# Linked programs

A program remembers the answer to every name that was looked up in it, including the answer that
the name is not active. A name is asked for once in a program's life.

## Main definitions

* `Answers` is a table of answers by name.
* `Program` is a linked program with its tables for uniforms and attributes.
* `Program.locateUniform`, `Program.locateAttribute` and `Program.set` go through the tables.
-/

namespace ShaderBundle

/-- What is known about names. The outer option says whether a name was looked up. -/
structure Answers where
  /-- The names that were looked up, each once, with their answers. -/
  known : List (Text × Option Location) := []
  deriving DecidableEq, Repr

namespace Answers

/-- The remembered answer for a name. -/
def get? (answers : Answers) (name : Text) : Option (Option Location) :=
  answers.known.lookup name

/-- Remembers an answer. -/
def insert (answers : Answers) (name : Text) (answer : Option Location) : Answers :=
  ⟨(name, answer) :: answers.known⟩

@[simp] theorem get?_insert_self (answers : Answers) (name : Text) (answer : Option Location) :
    (answers.insert name answer).get? name = some answer := by
  simp [get?, insert]

theorem get?_insert_of_ne {name other : Text} (h : other ≠ name) (answers : Answers)
    (answer : Option Location) : (answers.insert name answer).get? other = answers.get? other := by
  have hne : (other == name) = false := by simpa using h
  simp [get?, insert, List.lookup_cons, hne]

end Answers

/-- A linked program. -/
structure Program where
  /-- The backend's name for it. -/
  id : ProgramId
  /-- The stages it was built from, in file order. -/
  stages : List Stage
  /-- What is known about its uniforms. -/
  uniforms : Answers := {}
  /-- What is known about its attributes. -/
  attributes : Answers := {}
  deriving DecidableEq, Repr

namespace Program

variable {σ : Type}

/-- The location of a uniform, from memory if it was asked for before. -/
def locateUniform (backend : Backend σ) (program : Program) (name : Text) :
    Job σ (Option Location × Program) :=
  match program.uniforms.get? name with
  | some answer => pure (answer, program)
  | none => do
    let answer ← backend.uniformLocation program.id name
    return (answer, { program with uniforms := program.uniforms.insert name answer })

/-- The location of an attribute, from memory if it was asked for before. -/
def locateAttribute (backend : Backend σ) (program : Program) (name : Text) :
    Job σ (Option Location × Program) :=
  match program.attributes.get? name with
  | some answer => pure (answer, program)
  | none => do
    let answer ← backend.attributeLocation program.id name
    return (answer, { program with attributes := program.attributes.insert name answer })

/-- Writes a uniform and says whether it is active. -/
def set (backend : Backend σ) (program : Program) (name : Text) (value : UniformValue) :
    Job σ (Bool × Program) := do
  match ← program.locateUniform backend name with
  | (some location, program) =>
    backend.setUniform program.id location value
    return (true, program)
  | (none, program) => return (false, program)

end Program

end ShaderBundle
