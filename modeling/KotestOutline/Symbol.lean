import KotestOutline.Syntax
import KotestOutline.Text

/-!
# Symbols

Class declarations as symbols, and the resolution of written names against them.
-/

namespace KotestOutline

/-!
## Class symbols

What a declaration says about a class: its qualified name, the superclass as written, and the
package and imports under which that name must be read.
-/

/-! ### Import contexts -/

/-- The package and imports a type name is written under. -/
structure ImportContext where
  /-- Empty for the default package. -/
  package : String
  /-- Imported paths as written; wildcard imports end in `.*`. -/
  imports : List String
  deriving DecidableEq, Inhabited

namespace ImportContext

/-- The default package without imports. -/
def empty : ImportContext := ⟨"", []⟩

/-- The package header and imports of a file. -/
def ofFile (file : Node) : ImportContext :=
  ⟨((file.firstChild? .packageHeader).map Node.text).getD "",
    (file.childrenOf .importDirective).map Node.text⟩

/-- The context of the file around a node. -/
def ofNode (n : Node) : ImportContext := ofFile n.root

/-- A name qualified with the package. -/
def qualify (context : ImportContext) (name : String) : String :=
  if context.package.isEmpty then name else QualifiedName.inside context.package name

/-- The package of a wildcard import. -/
def wildcardPackage? (path : String) : Option String :=
  (dropBack? ['.', '*'] path.toList).map String.ofList

/-- The explicit import whose last segment is `name`. -/
def explicitImport? (context : ImportContext) (name : String) : Option String :=
  context.imports.find? fun path =>
    (wildcardPackage? path).isNone && QualifiedName.short path == name

/-- The packages imported as a whole. -/
def wildcardPackages (context : ImportContext) : List String :=
  context.imports.filterMap wildcardPackage?

end ImportContext

/-! ### Symbols -/

/-- A class declaration. -/
structure ClassSymbol where
  fqName : String
  /-- The superclass as written in the declaration, if there is one. -/
  superType : Option String
  /-- The context in which `superType` is written. -/
  context : ImportContext
  deriving DecidableEq, Inhabited

namespace ClassSymbol

/-- A class known only by name. -/
def external (fqName : String) : ClassSymbol := ⟨fqName, none, .empty⟩

def shortName (s : ClassSymbol) : String := QualifiedName.short s.fqName

end ClassSymbol

/-! ### Declarations -/

/-- The declared name of a class or object. -/
def className? (n : Node) : Option String :=
  (n.firstChild? .identifier).map Node.text

/-- The qualified name of a declaration; none if it or a class around it has no name. -/
def classFqName? (n : Node) : Option String := do
  let inner ← className? n
  let outer ← (n.ancestors.filter (·.kind.isClassOrObject)).mapM className?
  return (ImportContext.ofNode n).qualify (".".intercalate (inner :: outer).reverse)

/-- The superclass of a declaration as written: the first constructor call among its supertypes, or
else the first of the others. -/
def superTypeName? (n : Node) : Option String := do
  let list ← n.firstChild? .superTypeList
  let entry ← (list.firstChild? .superTypeCallEntry).or (list.firstChild? .superTypeEntry)
  let name ← (entry.firstChild? .typeReference).map Node.text
  if name.isEmpty then none else some name

/-- The symbol of a declaration. -/
def declaredSymbol? (n : Node) : Option ClassSymbol :=
  (classFqName? n).map fun fqName => ⟨fqName, superTypeName? n, .ofNode n⟩

/-- The symbols that a tree declares, nested ones included, in source order. -/
def declaredSymbols (t : SyntaxTree) : List ClassSymbol :=
  ((Node.ofTree t).descendants.filter (·.kind.isClassOrObject)).filterMap declaredSymbol?

/-!
## Project indexes

The class declarations of a set of files, and the resolution of written type names against them.

* `ProjectIndex` keeps one symbol under each qualified name, the one inserted last. Its keys are the
  names of its symbols (`ProjectIndex.keyed_put`), none of them repeated.
* `IndexOverlay` lays the declarations of one file over an index without changing it.
* `Resolver.resolve` reads a written name the way imports do, as far as that is possible without a
  compiler: qualified names, explicit imports, the own package, wildcard imports. An explicit import
  of a class that is not indexed resolves to a symbol with no known superclass.
-/

/-- The symbols of a project under their qualified names. -/
structure ProjectIndex where
  entries : List (String × ClassSymbol)
  /-- The key of a symbol is its qualified name. -/
  keyed : ∀ e ∈ entries, e.1 = e.2.fqName
  distinct : (entries.map Prod.fst).Nodup

namespace ProjectIndex

def empty : ProjectIndex := ⟨[], fun _ he => absurd he List.not_mem_nil, List.nodup_nil⟩

/-- The symbols, without their keys. -/
def classes (i : ProjectIndex) : List ClassSymbol := i.entries.map Prod.snd

/-- The number of classes. -/
def size (i : ProjectIndex) : Nat := i.entries.length

/-- The symbol under a qualified name. -/
def get? (i : ProjectIndex) (fqName : String) : Option ClassSymbol :=
  (i.entries.find? (·.1 == fqName)).map Prod.snd

/-- The entries with a symbol under its name, in place of any other under that name. -/
def put (entries : List (String × ClassSymbol)) (s : ClassSymbol) : List (String × ClassSymbol) :=
  (s.fqName, s) :: entries.filter (·.1 != s.fqName)

section Put

variable {entries : List (String × ClassSymbol)}

/-- A symbol is put under its name, and the others keep their keys. -/
theorem keyed_put (h : ∀ e ∈ entries, e.1 = e.2.fqName) (s : ClassSymbol) :
    ∀ e ∈ put entries s, e.1 = e.2.fqName := by
  intro e he
  rcases List.mem_cons.1 he with rfl | he
  · rfl
  · exact h e (List.mem_filter.1 he).1

/-- The key of the symbol that is put is taken from the others. -/
theorem distinct_put (h : (entries.map Prod.fst).Nodup) (s : ClassSymbol) :
    ((put entries s).map Prod.fst).Nodup := by
  rw [put, List.map_cons, List.nodup_cons]
  refine ⟨by simp, ?_⟩
  exact h.sublist (List.filter_sublist.map Prod.fst)

end Put

/-- Adds a symbol under its name, in place of any other under that name. -/
def insert (i : ProjectIndex) (s : ClassSymbol) : ProjectIndex :=
  ⟨put i.entries s, keyed_put i.keyed s, distinct_put i.distinct s⟩

/-- The index of some symbols, the last one under each name. -/
def ofSymbols (symbols : List ClassSymbol) : ProjectIndex := symbols.foldl insert empty

/-- Adds every class and object that a tree declares. -/
def addTree (i : ProjectIndex) (t : SyntaxTree) : ProjectIndex :=
  (declaredSymbols t).foldl insert i

/-- Adds every class and object that a tree declares; the number counts them. -/
def addTreeCounted (i : ProjectIndex) (t : SyntaxTree) : ProjectIndex × Nat :=
  (i.addTree t, (declaredSymbols t).length)

end ProjectIndex

/-- The declarations of one file over an index. -/
structure IndexOverlay where
  base : Option ProjectIndex
  /-- The declarations of the file, which hide those of the base. -/
  file : ProjectIndex

namespace IndexOverlay

/-- The overlay of the declarations of a tree. -/
def ofTree (base : Option ProjectIndex) (t : SyntaxTree) : IndexOverlay :=
  ⟨base, ProjectIndex.empty.addTree t⟩

end IndexOverlay

/-- What type names are resolved against. -/
inductive Resolver where
  | index (i : ProjectIndex)
  | overlay (o : IndexOverlay)

namespace Resolver

/-- The declared symbol with a qualified name. -/
def declared? (r : Resolver) (fqName : String) : Option ClassSymbol :=
  match r with
  | index i => i.get? fqName
  | overlay o => (o.file.get? fqName).or (o.base.bind (·.get? fqName))

/-- The number of declarations that can be found, those hidden by an overlay counted as well. -/
def size : Resolver → Nat
  | index i => i.size
  | overlay o => o.file.size + o.base.elim 0 ProjectIndex.size

/-- The declared symbol with a qualified name, or else the symbol known only by that name. -/
def declaredOrExternal (r : Resolver) (fqName : String) : ClassSymbol :=
  (r.declared? fqName).getD (.external fqName)

/-- The class that a simple name means: an explicit import, a class of the own package, or a class
of a package imported as a whole. -/
def resolveSimple? (r : Resolver) (name : String) (context : ImportContext) :
    Option ClassSymbol :=
  match context.explicitImport? name with
  | some path => some (r.declaredOrExternal path)
  | none =>
    (r.declared? (context.qualify name)).or <|
      context.wildcardPackages.findSome? fun package =>
        r.declared? (QualifiedName.inside package name)

/-- The class that a dotted name means: a declared class, a class outside the index if the name
begins with a package, or a class inside the one its head means. -/
def resolveQualified? (r : Resolver) (name : String) (context : ImportContext) :
    Option ClassSymbol :=
  match r.declared? name with
  | some s => some s
  | none => do
    let (head, rest) ← QualifiedName.headAndRest? name
    if QualifiedName.startsLowercase head then some (.external name)
    else
      let outer ← r.resolveSimple? head context
      some (r.declaredOrExternal (QualifiedName.inside outer.fqName rest))

/-- The class that a name written under a context means. -/
def resolve (r : Resolver) (name : String) (context : ImportContext) : Option ClassSymbol :=
  if QualifiedName.isDotted name then r.resolveQualified? name context
  else r.resolveSimple? name context

/-- The superclass of a declaration, resolved in its own file. -/
def resolveSuper? (r : Resolver) (n : Node) : Option ClassSymbol :=
  (superTypeName? n).bind fun written => r.resolve written (.ofNode n)

end Resolver

end KotestOutline
