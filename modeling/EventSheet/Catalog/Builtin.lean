import EventSheet.Catalog.Basic

/-!
# Built-in extensions

The extensions that every platform starts with unless it asks not to: arithmetic, texts, variables,
time, the base object, sprites, text inputs and the platformer behavior. Functions of objects and
behaviors list the object and the behavior they are called on first, as in any catalog.
-/

namespace EventSheet

/-- The capability that functions about effects require. -/
def effectCapability : String := "effect"

/-- A function with required parameters of the given kinds. -/
def Signature.simple (name returnKind : String) (kinds : List String) : Signature :=
  ⟨name, returnKind, kinds.map Parameter.required, none, ""⟩

/-- A function that is handed the current scene before its written parameters. -/
def Signature.ofScene (name returnKind : String) (parameters : List Parameter) : Signature :=
  ⟨name, returnKind, ⟨"currentScene", false, true, ""⟩ :: parameters, none, ""⟩

/-- Functions on numbers. -/
def mathematicalTools : Extension where
  name := "BuiltinMathematicalTools"
  functions :=
    [.simple "abs" "number" ["expression"],
     .simple "min" "number" ["expression", "expression"],
     .simple "max" "number" ["expression", "expression"],
     .simple "clamp" "number" ["expression", "expression", "expression"],
     .simple "mod" "number" ["expression", "expression"],
     .simple "sin" "number" ["expression"],
     .simple "cos" "number" ["expression"],
     .simple "sqrt" "number" ["expression"],
     .simple "pow" "number" ["expression", "expression"],
     ⟨"round", "number",
      [.required "expression", ⟨"expression", true, false, "Number of decimal places"⟩], none, ""⟩,
     .simple "Random" "number" ["expression"],
     .simple "RandomInRange" "number" ["expression", "expression"]]
  objects := []
  behaviors := []

/-- Functions on texts. -/
def stringInstructions : Extension where
  name := "BuiltinStringInstructions"
  functions :=
    [.simple "ToString" "string" ["expression"],
     .simple "ToNumber" "number" ["string"],
     .simple "StrLength" "number" ["string"],
     .simple "SubStr" "string" ["string", "expression", "expression"],
     .simple "StrFind" "number" ["string", "string"],
     .simple "UpperCase" "string" ["string"],
     .simple "LowerCase" "string" ["string"],
     .simple "NewLine" "string" []]
  objects := []
  behaviors := []

/-- Functions that read variables of the scene and of the project. -/
def variableFunctions : Extension where
  name := "BuiltinVariables"
  functions :=
    [.simple "Variable" "number" ["scenevar"],
     .simple "VariableString" "string" ["scenevar"],
     .simple "VariableChildCount" "number" ["scenevar"],
     .simple "GlobalVariable" "number" ["globalvar"],
     .simple "GlobalVariableString" "string" ["globalvar"],
     .simple "GlobalVariableChildCount" "number" ["globalvar"]]
  objects := []
  behaviors := []

/-- Functions on time and on the current scene. -/
def timeAndScene : Extension where
  name := "BuiltinTime"
  functions :=
    [.ofScene "Time" "number" [⟨"string", false, false, "hour, min, sec, year..."⟩],
     .ofScene "TimeDelta" "number" [],
     .ofScene "TimeFromStart" "number" [],
     .ofScene "CurrentSceneName" "string" [],
     .ofScene "Count" "number" [.required "objectList"]]
  objects := []
  behaviors := []

/-- Functions of every object. -/
def baseObject : Extension where
  name := "BuiltinObject"
  functions := []
  objects :=
    [⟨baseObjectType,
      [.simple "X" "number" ["object"],
       .simple "Y" "number" ["object"],
       .simple "Width" "number" ["object"],
       .simple "Height" "number" ["object"],
       .simple "Angle" "number" ["object"],
       .simple "ZOrder" "number" ["object"],
       .simple "Layer" "string" ["object"],
       .simple "ObjectName" "string" ["object"],
       .simple "Variable" "number" ["object", "objectvar"],
       .simple "VariableString" "string" ["object", "objectvar"],
       .simple "VariableChildCount" "number" ["object", "objectvar"],
       .simple "Distance" "number" ["object", "objectPtr"],
       { Signature.simple "EffectDoubleParameter" "number"
           ["object", "objectEffectName", "string"] with
         requiredCapability := some effectCapability }],
      []⟩]
  behaviors := []

/-- Functions of sprites. -/
def sprite : Extension where
  name := "Sprite"
  functions := []
  objects :=
    [⟨"Sprite",
      [.simple "Animation" "number" ["object"],
       .simple "AnimationName" "string" ["object"],
       .simple "Direction" "number" ["object"],
       .simple "ScaleX" "number" ["object"],
       .simple "ScaleY" "number" ["object"],
       .simple "PointX" "number" ["object", "objectPointName"],
       .simple "PointY" "number" ["object", "objectPointName"]],
      []⟩]
  behaviors := []

/-- Functions of text inputs, which have no effects. -/
def textInput : Extension where
  name := "TextInput"
  functions := []
  objects :=
    [⟨"TextInput::TextInputObject",
      [.simple "Text" "string" ["object"],
       .simple "PlaceholderText" "string" ["object"]],
      [effectCapability]⟩]
  behaviors := []

/-- Functions of the platformer behavior. -/
def platformer : Extension where
  name := "PlatformBehavior"
  functions := []
  objects := []
  behaviors :=
    [⟨"PlatformBehavior::PlatformerObjectBehavior",
      [.simple "CurrentSpeed" "number" ["object", "behavior"],
       .simple "MaxSpeed" "number" ["object", "behavior"],
       .simple "JumpSpeed" "number" ["object", "behavior"],
       .simple "Gravity" "number" ["object", "behavior"]]⟩]

/-- The built-in extensions, in the order of registration. -/
def builtinExtensions : List Extension :=
  [mathematicalTools, stringInstructions, variableFunctions, timeAndScene, baseObject, sprite,
   textInput, platformer]

end EventSheet
