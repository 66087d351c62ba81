import FactoryGen.Template.Reader

/-! The template of factories that is there from the start, line by line. -/
namespace FactoryGen.Template.BuiltIn

/-- A tag with the given inside. -/
def tag (inside : String) : List Char :=
  '\x7b' :: '\x7b' :: (inside.toList ++ ['\x7d', '\x7d'])

/-- A part for each parameter, with commas between them. -/
def perParameter (part : List Char) : List Char :=
  tag "#each parameters" ++ part ++
    tag "#unless @last" ++ [',', ' '] ++ tag "/unless" ++ tag "/each"

def createLine : List Char :=
  "    override fun <T : ".toList ++ tag "base_type" ++
    "> create(modelClass: java.lang.Class<T>): T \x7b".toList

def creation : List Char :=
  tag "class_name" ++ '(' :: (perParameter (tag "name") ++ [')'])

/-- What a parameter looks like where it is declared. -/
def declaration : List Char := tag "name" ++ ':' :: ' ' :: tag "type_name"

/-- The lines of the `create` method that compares classes. -/
def checkedLines : List (List Char) :=
  [createLine,
   "        require(modelClass.isAssignableFrom(".toList ++ tag "class_name" ++
     "::class.java)) \x7b".toList,
   "            \"".toList ++ tag "factory_name" ++
     " cannot create $\x7bmodelClass.name\x7d\"".toList,
   "        \x7d".toList,
   "        return modelClass.cast(".toList ++ creation ++ [')'],
   "    \x7d".toList]

/-- The lines of the `create` method that does not. -/
def uncheckedLines : List (List Char) :=
  ["    @Suppress(\"UNCHECKED_CAST\")".toList,
   createLine,
   "        return ".toList ++ creation ++ " as T".toList,
   "    \x7d".toList]

def lines : List (List Char) :=
  ["// ".toList ++ tag "marker",
   tag "#if package_name",
   "package ".toList ++ tag "package_name",
   [],
   tag "/if",
   "class ".toList ++ tag "factory_name" ++ '(' :: (perParameter declaration ++
     ") : ".toList ++ tag "factory_interface" ++ " \x7b".toList),
   tag "#each parameters",
   "    val ".toList ++ declaration ++ " = ".toList ++ tag "name",
   tag "/each",
   tag "#if parameters",
   [],
   tag "/if",
   tag "#if checked"] ++
  checkedLines ++
  [tag "else"] ++
  uncheckedLines ++
  [tag "/if",
   ['\x7d']]

def chars : List Char := lines.flatMap (· ++ ['\n'])

end FactoryGen.Template.BuiltIn

def FactoryGen.Template.builtIn : FactoryGen.Template :=
  (FactoryGen.Template.ofChars FactoryGen.Template.BuiltIn.chars).getD []
