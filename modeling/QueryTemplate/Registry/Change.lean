import QueryTemplate.Registry

/-! Loading declarations into a registry, and its changes one after the other.

The first declaration that fails ends the loading, with those before it kept. Each change leaves a
registry, whether it succeeds or not.
-/

set_option autoImplicit false

namespace QueryTemplate.Registry

/-- Register declarations up to the first that fails. -/
def load (registry : Registry) : List MethodDefinition → Registry × Except DefinitionError Unit
  | [] => (registry, .ok ())
  | definition :: rest =>
    match registry.define definition with
    | .error source => (registry, .error source)
    | .ok registry => registry.load rest

def loadJson (registry : Registry) (text : Text) : Registry × Except DefinitionError Unit :=
  match RepositoryDefinition.ofJsonText text with
  | .error source => (registry, .error (.json source))
  | .ok repository => registry.load repository.methods

def loadFile (read : FileReader) (registry : Registry) (path : String) :
    Registry × Except DefinitionError Unit :=
  match read path with
  | .error source => (registry, .error (.io path source))
  | .ok text => registry.loadJson text

def ofFile (read : FileReader) (path : String) : Except DefinitionError Registry :=
  match empty.loadFile read path with
  | (_, .error source) => .error source
  | (registry, .ok ()) => .ok registry

inductive Change where
  | insert (method : Method)
  | define (definition : MethodDefinition)
  | load (definitions : List MethodDefinition)
  | loadJson (text : Text)
  | loadFile (path : String)
  deriving Repr

/-- The registry that an attempt leaves: the old one if the attempt failed. -/
def keep (registry : Registry) (attempt : Except DefinitionError Registry) :
    Registry × Except DefinitionError Unit :=
  match attempt with
  | .error source => (registry, .error source)
  | .ok changed => (changed, .ok ())

def apply (read : FileReader) (registry : Registry) : Change → Registry × Except DefinitionError Unit
  | .insert method => registry.keep (registry.insert method)
  | .define definition => registry.keep (registry.define definition)
  | .load definitions => registry.load definitions
  | .loadJson text => registry.loadJson text
  | .loadFile path => registry.loadFile read path

def run (read : FileReader) (registry : Registry) (changes : List Change) : Registry :=
  changes.foldl (fun registry change => (registry.apply read change).1) registry

end QueryTemplate.Registry
