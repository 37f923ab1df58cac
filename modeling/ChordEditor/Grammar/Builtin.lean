import ChordEditor.Grammar.Basic

namespace ChordEditor.Grammar

/-!
# Built-in grammars

The scripting, kernel and command languages that the editor knows by itself.
-/

/-- Text between double quotes, in which a backslash escapes any character. -/
def doubleQuoted : String := "\"[^\"\\\\]*(\\\\.[^\"\\\\]*)*\""

/-- Text between single quotes, in which a backslash escapes any character. -/
def singleQuoted : String := "'[^'\\\\]*(\\\\.[^'\\\\]*)*'"

/-- The general scripting language. -/
def python : Except GrammarError Grammar :=
  Grammar.ofParts "python" "#"
    [ .rule "def [\\w]+[\\s]*\\((.*)\\)" 1 .argument,
      .rule "," 0 .plain,
      .rule "[^\\(\\w),.][\\s]*[\\w]+" 0 .plain,
      .rule "\\b([\\w]+)[\\s]*[(]" 1 .callable,
      .words
        [ "and", "assert", "break", "continue", "del", "elif", "else", "except", "exec",
          "finally", "for", "from", "global", "if", "import", "in", "is", "lambda", "not",
          "or", "pass", "print", "raise", "return", "try", "while", "yield", "with", "as" ]
        .keyword,
      .words
        [ "AssertionError", "AttributeError", "EOFError", "FloatingPointError",
          "GeneratorExit", "ImportError", "IndexError", "KeyError", "KeyboardInterrupt",
          "MemoryError", "NameError", "NotImplementedError", "OSError", "OverflowError",
          "ReferenceError", "RuntimeError", "StopIteration", "SyntaxError",
          "IndentationError", "TabError", "SystemError", "SystemExit", "TypeError",
          "UnboundLocalError", "UnicodeError", "UnicodeEncodeError", "UnicodeDecodeError",
          "UnicodeTranslateError", "ValueError", "ZeroDivisionError" ]
        .errorType,
      .symbols
        [ "=", "==", "!=", "<", "<=", ">", ">=", "+", "-", "*", "/", "//", "%", "**", "+=",
          "-=", "*=", "/=", "%=", "^", "|", "&", "~", ">>", "<<" ]
        .operator,
      .words ["True", "False", "None"] .constant,
      .rule "\\b[0-9]+\\b" 0 .number,
      .rule "def[\\s]+([\\w\\.]+)" 1 .function,
      .rule "class[\\s]+([\\w\\.]+)" 1 .class,
      .rule "class[\\s]+[\\w\\.]+[\\s]*\\((.*)\\)" 1 .class,
      .rule "def[\\s]+[\\w]+[\\s]*\\(([\\w]+)" 1 .argument,
      .words ["nuke"] .module,
      .words ["def", "class", "int", "str", "float", "bool", "list", "dict", "set"] .builtin,
      .words ["self"] .selfRef,
      .rule doubleQuoted 0 .string,
      .rule singleQuoted 0 .string,
      .rule "#[^\\n]*" 0 .comment,
      .construct "'''" "'''" .string,
      .construct "\"\"\"" "\"\"\"" .string ]

/-- The language of image kernels. -/
def blink : Except GrammarError Grammar :=
  Grammar.ofParts "blink" "//"
    [ .rule "\\b\\d+\\b" 0 .number,
      .rule "\\b\\d+\\.\\d*(?:f)?\\b" 0 .number,
      .words
        [ "class", "const", "enum", "explicit", "friend", "inline", "long", "namespace",
          "operator", "private", "protected", "public", "short", "signed", "static",
          "struct", "template", "typedef", "typename", "union", "unsigned", "virtual",
          "volatile", "local", "param", "kernel", "for", "continue", "return", "if", "else",
          "while", "true", "false" ]
        .keyword,
      .rule "\\b(\\w+)\\s*\\(" 1 .function,
      .words
        [ "define", "defineParam", "process", "init", "setRange", "setAxis", "median",
          "bilinear" ]
        .function,
      .words
        [ "Image", "eRead", "eWrite", "eReadWrite", "eEdgeClamped", "eEdgeConstant",
          "eEdgeNull", "eAccessPoint", "eAccessRanged1D", "eAccessRanged2D",
          "eAccessRandom", "eComponentWise", "ePixelWise", "ImageComputationKernel" ]
        .builtin,
      .words
        [ "int", "int2", "int3", "int4", "float", "float2", "float3", "float4", "float3x3",
          "float4x4", "bool", "char", "double", "void" ]
        .type,
      .symbols
        [ "=", "==", "!=", "<", "<=", ">", ">=", "+", "-", "*", "/", "//", "%", "**", "+=",
          "-=", "*=", "/=", "%=", "^", "|", "&", "~", ">>", "<<", "++", "?", "!" ]
        .operator,
      .rule "\"([^\"\\\\]|\\\\.)*\"" 0 .string,
      .rule "'([^'\\\\]|\\\\.)*'" 0 .string,
      .rule "//[^\\n]*" 0 .comment,
      .construct "/*" "*/" .comment ]

/-- The command language with expressions. -/
def tcl : Except GrammarError Grammar :=
  Grammar.ofParts "tcl" "#"
    [ .rule "\\b[0-9]+\\b" 0 .number,
      .rule "true|false|True|False" 0 .constant,
      .rule "proc\\s+([\\w\\.]+)" 0 .function,
      .words
        [ "proc", "if", "while", "for", "foreach", "switch", "string", "list", "array",
          "catch", "return", "puts", "source", "incr", "rename", "continue", "unset",
          "append", "lindex", "concat", "regexp", "join", "format", "open", "close", "info",
          "eof", "seek", "else" ]
        .keyword,
      .words
        [ "set", "expr", "puts", "exists", "x", "abs", "acos", "asin", "atan", "atan2",
          "ceil", "clamp", "cos", "cosh", "degrees", "exp", "exponent", "fBm", "fabs",
          "floor", "fmod", "frame", "hypot", "int", "ldexp", "lerp", "log", "log10", "logb",
          "mantissa", "max", "min", "mix", "noise", "pi", "pow", "pow2", "radians",
          "random", "rint", "sin", "sinh", "smoothstep", "sqrt", "step", "tan", "tanh",
          "trunc", "turbulence", "y" ]
        .builtin,
      .rule doubleQuoted 0 .string,
      .rule singleQuoted 0 .string,
      .rule "(\\w+)\\." 1 .object,
      .rule "\\b\\d+\\.\\d+\\b" 0 .number,
      .rule "\\$\\w+" 0 .variable,
      .rule "\\$::\\w+" 0 .variable,
      .rule "#[^\\n]*" 0 .comment ]

end ChordEditor.Grammar
