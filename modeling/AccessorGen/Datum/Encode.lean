import AccessorGen.ClassDecl
import AccessorGen.Datum.Basic
import AccessorGen.Schema.Basic

/-!
# Encoding

Settings, schemas and described classes as data: every key is there, and what is missing is null.
-/

set_option autoImplicit false

namespace AccessorGen

/-- The strategy by its name, with its suffix if it has one. -/
def Strategy.toDatum : Strategy → Datum
  | .augment => .text "augment"
  | .companion suffix => .record [("companion", .record [("suffix", .text suffix)])]

def Config.toDatum (config : Config) : Datum :=
  .record [
    ("strategy", config.strategy.toDatum),
    ("factory_name", .text config.factoryName),
    ("indent", .text config.indent),
    ("emit_javadoc", .bool config.emitJavadoc),
    ("add_generated_annotation", .bool config.markGenerated),
    ("header_comment", .text config.headerComment)]

def FieldSpec.toDatum (f : FieldSpec) : Datum :=
  .record [
    ("name", .text f.name),
    ("type", .text f.type),
    ("static", (f.isStatic.map Datum.bool).getD .null),
    ("modifiers", (f.modifiers.map Datum.ofTexts).getD .null),
    ("initializer", .ofText? f.initializer),
    ("markers", .ofTexts f.markers)]

def ClassSpec.toDatum (c : ClassSpec) : Datum :=
  .record [
    ("name", .text c.name),
    ("package", .ofText? c.package),
    ("markers", .ofTexts c.markers),
    ("extends", .ofText? c.superclass),
    ("implements", .ofTexts c.interfaces),
    ("field", .list (c.fields.map (·.toDatum)))]

def Schema.toDatum (s : Schema) : Datum :=
  .record [
    ("generator", (s.config.map Config.toDatum).getD .null),
    ("class", .list (s.classes.map (·.toDatum)))]

def MarkerSet.toDatum (m : MarkerSet) : Datum :=
  .record [
    ("all_args_constructor", .bool m.allArgsConstructor),
    ("getter", .bool m.getter),
    ("setter", .bool m.setter),
    ("to_string", .bool m.stringForm)]

def FieldDecl.toDatum (f : FieldDecl) : Datum :=
  .record [
    ("name", .text f.name),
    ("ty", .text f.type),
    ("is_static", .bool f.isStatic),
    ("modifiers", .ofTexts f.modifiers),
    ("initializer", .ofText? f.initializer),
    ("has_read_marker", .bool f.readMarked),
    ("has_write_marker", .bool f.writeMarked)]

def ClassDecl.toDatum (c : ClassDecl) : Datum :=
  .record [
    ("qualified_name", .text c.qualifiedName),
    ("simple_name", .text c.simpleName),
    ("package", .ofText? c.package),
    ("superclass", .ofText? c.superclass),
    ("interfaces", .ofTexts c.interfaces),
    ("fields", .list (c.fields.map (·.toDatum))),
    ("markers", c.markers.toDatum)]

end AccessorGen
