import AccessorGen.ClassDecl
import AccessorGen.Datum.Parts
import AccessorGen.Schema.Basic

/-!
# Decoding

Settings, schemas and described classes from data. Every decoder names its keys once, in the order
of their declaration, and then reads its parts.
-/

set_option autoImplicit false

namespace AccessorGen

/-- Whether the contents of an alternative say that there are none. -/
def Format.isVoid (fmt : Format) : Datum → Bool
  | .null => !fmt.emptyIsContainer
  | .list items => fmt.emptyIsContainer && items.isEmpty
  | .record entries => fmt.emptyIsContainer && entries.isEmpty
  | _ => false

def Format.companionSuffix? (fmt : Format) (d : Datum) : Option String :=
  match d with
  | .record entries =>
    if fmt.strictContents && entries.any (fun e => e.1 != "suffix") then none
    else Parts.withDefault ⟨entries, false⟩ "suffix" Datum.text? Strategy.defaultSuffix
  | _ =>
    if fmt.strictContents then do
      let p ← Parts.ofDatum? fmt ["suffix"] d
      p.withDefault "suffix" Datum.text? Strategy.defaultSuffix
    else none

/-- A strategy: its name where it has no contents, otherwise a record of its name alone. -/
def Strategy.ofDatum? (fmt : Format) : Datum → Option Strategy
  | .text "augment" => some .augment
  | .record [("augment", contents)] => if fmt.isVoid contents then some .augment else none
  | .record [("companion", contents)] => (fmt.companionSuffix? contents).map .companion
  | _ => none

def Config.keys : List String :=
  ["strategy", "factory_name", "indent", "emit_javadoc", "add_generated_annotation",
    "header_comment"]

/-- The settings of a round; whatever is missing has its default. -/
def Config.ofDatum? (fmt : Format) (d : Datum) : Option Config := do
  let p ← Parts.ofDatum? fmt Config.keys d
  let default : Config := {}
  let strategy ← p.withDefault "strategy" (Strategy.ofDatum? fmt) default.strategy
  let factoryName ← p.withDefault "factory_name" Datum.text? default.factoryName
  let indent ← p.withDefault "indent" Datum.text? default.indent
  let emitJavadoc ← p.withDefault "emit_javadoc" Datum.bool? default.emitJavadoc
  let markGenerated ←
    p.withDefault "add_generated_annotation" Datum.bool? default.markGenerated
  let headerComment ← p.withDefault "header_comment" Datum.text? default.headerComment
  return { strategy, factoryName, indent, emitJavadoc, markGenerated, headerComment }

def FieldSpec.keys : List String :=
  ["name", "type", "static", "modifiers", "initializer", "markers"]

def FieldSpec.ofDatum? (fmt : Format) (d : Datum) : Option FieldSpec := do
  let p ← Parts.ofDatum? fmt FieldSpec.keys d
  let name ← p.required "name" Datum.text?
  let type ← p.required "type" Datum.text?
  let isStatic ← p.nullable "static" Datum.bool?
  let modifiers ← p.nullable "modifiers" (Datum.list? Datum.text?)
  let initializer ← p.nullable "initializer" Datum.text?
  let markers ← p.withDefault "markers" (Datum.list? Datum.text?) []
  return { name, type, isStatic, modifiers, initializer, markers }

def ClassSpec.keys : List String :=
  ["name", "package", "markers", "extends", "implements", "field"]

def ClassSpec.ofDatum? (fmt : Format) (d : Datum) : Option ClassSpec := do
  let p ← Parts.ofDatum? fmt ClassSpec.keys d
  let name ← p.required "name" Datum.text?
  let package ← p.nullable "package" Datum.text?
  let markers ← p.withDefault "markers" (Datum.list? Datum.text?) []
  let superclass ← p.nullable "extends" Datum.text?
  let interfaces ← p.withDefault "implements" (Datum.list? Datum.text?) []
  let fields ← p.withDefault "field" (Datum.list? (FieldSpec.ofDatum? fmt)) []
  return { name, package, markers, superclass, interfaces, fields }

def Schema.keys : List String := ["generator", "class"]

def Schema.ofDatum? (fmt : Format) (d : Datum) : Option Schema := do
  let p ← Parts.ofDatum? fmt Schema.keys d
  let config ← p.nullable "generator" (Config.ofDatum? fmt)
  let classes ← p.withDefault "class" (Datum.list? (ClassSpec.ofDatum? fmt)) []
  return { config, classes }

/-- A marker: its name, or a record of its name alone without contents. -/
def Marker.ofDatum? (fmt : Format) : Datum → Option Marker
  | .text name => Marker.ofName? name
  | .record [(name, contents)] => if fmt.isVoid contents then Marker.ofName? name else none
  | _ => none

def MarkerSet.keys : List String := ["all_args_constructor", "getter", "setter", "to_string"]

/-- A set of class markers, every switch given. -/
def MarkerSet.ofDatum? (fmt : Format) (d : Datum) : Option MarkerSet := do
  let p ← Parts.ofDatum? fmt MarkerSet.keys d
  let allArgsConstructor ← p.required "all_args_constructor" Datum.bool?
  let getter ← p.required "getter" Datum.bool?
  let setter ← p.required "setter" Datum.bool?
  let stringForm ← p.required "to_string" Datum.bool?
  return { allArgsConstructor, getter, setter, stringForm }

def FieldDecl.keys : List String :=
  ["name", "ty", "is_static", "modifiers", "initializer", "has_read_marker", "has_write_marker"]

def FieldDecl.ofDatum? (fmt : Format) (d : Datum) : Option FieldDecl := do
  let p ← Parts.ofDatum? fmt FieldDecl.keys d
  let name ← p.required "name" Datum.text?
  let type ← p.required "ty" Datum.text?
  let isStatic ← p.required "is_static" Datum.bool?
  let modifiers ← p.required "modifiers" (Datum.list? Datum.text?)
  let initializer ← p.nullable "initializer" Datum.text?
  let readMarked ← p.required "has_read_marker" Datum.bool?
  let writeMarked ← p.required "has_write_marker" Datum.bool?
  return { name, type, isStatic, modifiers, initializer, readMarked, writeMarked }

def ClassDecl.keys : List String :=
  ["qualified_name", "simple_name", "package", "superclass", "interfaces", "fields", "markers"]

def ClassDecl.ofDatum? (fmt : Format) (d : Datum) : Option ClassDecl := do
  let p ← Parts.ofDatum? fmt ClassDecl.keys d
  let qualifiedName ← p.required "qualified_name" Datum.text?
  let simpleName ← p.required "simple_name" Datum.text?
  let package ← p.nullable "package" Datum.text?
  let superclass ← p.nullable "superclass" Datum.text?
  let interfaces ← p.required "interfaces" (Datum.list? Datum.text?)
  let fields ← p.required "fields" (Datum.list? (FieldDecl.ofDatum? fmt))
  let markers ← p.required "markers" (MarkerSet.ofDatum? fmt)
  return { qualifiedName, simpleName, package, superclass, interfaces, fields, markers }

end AccessorGen
