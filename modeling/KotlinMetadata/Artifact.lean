/-
Artifacts: compiled classes with their members and the metadata decoded from
them.
-/
import KotlinMetadata.Declaration
import KotlinMetadata.Name

namespace KotlinMetadata

/-! ## Metadata -/

/-- What the metadata of a class records. -/
structure ClassInfo where
  /-- The internal name. -/
  className : String
  kind : ClassKind := .ordinary
  visibility : Visibility := .publicMember
  modality : Modality := .final
  flags : FlagSet ClassFlag := .empty
  typeParameters : List TypeParameter := []
  superTypes : List TypeUse := []
  contextReceivers : List TypeUse := []
  constructors : List Constructor := []
  /-- The names of the nested classes, relative to the class. -/
  nestedClassNames : List String := []
  companionObjectName : Option String := none
  /-- Internal names. -/
  sealedSubclassNames : List String := []
  enumEntryNames : List String := []
  underlyingPropertyName : Option String := none
  underlyingPropertyType : Option TypeUse := none
  /-- The declaration that an anonymous object was created in. -/
  anonymousObjectOrigin : Option String := none
  versionRequirement : Option Version := none
  members : Members := {}

namespace ClassInfo

/-- The internal name of the companion object. -/
def companionClassName (c : ClassInfo) : Option String :=
  c.companionObjectName.map (Name.nested c.className)

/-- The internal names of the nested classes other than the companion. -/
def nestedInternalNames (c : ClassInfo) : List String :=
  (c.nestedClassNames.filter fun name => c.companionObjectName ≠ some name).map
    (Name.nested c.className)

end ClassInfo

/-- What the metadata of a synthetic class records. -/
structure SyntheticInfo where
  flavor : SyntheticFlavor := .regular
  functions : List Function := []

/-- What the metadata of a multi-file part records. -/
structure PartInfo where
  facadeName : String
  members : Members := {}

/-- What the metadata of an artifact describes. -/
inductive Content where
  | classOf (info : ClassInfo)
  | fileFacade (members : Members)
  | synthetic (info : SyntheticInfo)
  /-- The facade of a class made from several files, by the internal names of its parts. -/
  | multiFileFacade (partNames : List String)
  | multiFilePart (info : PartInfo)

/-- The kinds of content. -/
inductive ContentKind where
  | classOf
  | fileFacade
  | synthetic
  | multiFileFacade
  | multiFilePart
deriving DecidableEq, Repr

namespace Content

/-- The kind of a content. -/
def kind : Content → ContentKind
  | .classOf _ => .classOf
  | .fileFacade _ => .fileFacade
  | .synthetic _ => .synthetic
  | .multiFileFacade _ => .multiFileFacade
  | .multiFilePart _ => .multiFilePart

/-- The members declared directly, for the contents that declare any. -/
def members? : Content → Option Members
  | .classOf info => some info.members
  | .fileFacade members => some members
  | .multiFilePart info => some info.members
  | .synthetic _ => none
  | .multiFileFacade _ => none

end Content

namespace ContentKind

/-- Whether artifacts of the kind are normally printed inside the artifact that owns them. -/
def isEmbedded : ContentKind → Bool
  | .synthetic => true
  | .multiFilePart => true
  | _ => false

/-- The name of the kind in reports. -/
def label : ContentKind → String
  | .classOf => "class"
  | .fileFacade => "fileFacade"
  | .synthetic => "syntheticClass"
  | .multiFileFacade => "multiFileClassFacade"
  | .multiFilePart => "multiFileClassPart"

/-- The name of the kind as a node of the metadata tree. -/
def nodeName : ContentKind → String
  | .classOf => "Class"
  | .fileFacade => "FileFacade"
  | .synthetic => "SyntheticClass"
  | .multiFileFacade => "MultiFileFacade"
  | .multiFilePart => "MultiFilePart"

end ContentKind

/-- Decoded metadata. -/
structure Metadata where
  version : Version
  content : Content

/-- The kind of the content. -/
def Metadata.kind (m : Metadata) : ContentKind := m.content.kind

/-! ## Class files -/

/-- A method of a class file. -/
structure Method where
  name : String
  descriptor : String
  access : FlagSet AccessFlag := .empty
  annotations : List JvmAnnot := []

/-- A field of a class file. -/
structure Field where
  name : String
  descriptor : String
  access : FlagSet AccessFlag := .empty
  constantValue : Option Constant := none
  annotations : List JvmAnnot := []

/-- A compiled class. -/
structure Artifact where
  /-- The internal name. -/
  name : String
  access : FlagSet AccessFlag := .empty
  methods : List Method := []
  fields : List Field := []
  annotations : List JvmAnnot := []
  metadata : Option Metadata := none

namespace Artifact

/-- The name in external form. -/
def externalName (a : Artifact) : String := Name.toExternal a.name

/-- The first method with a name and a descriptor. -/
def findMethod? (a : Artifact) (name descriptor : String) : Option Method :=
  a.methods.find? fun m => m.name = name && m.descriptor = descriptor

/-- The first field with a name and a descriptor. -/
def findField? (a : Artifact) (name descriptor : String) : Option Field :=
  a.fields.find? fun f => f.name = name && f.descriptor = descriptor

end Artifact

end KotlinMetadata
