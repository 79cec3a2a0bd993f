/-
# Usage

The texts that tell how the command line is used.
-/
import GLBindings.CommandLine.Options

namespace GLBindings.CommandLine

set_option autoImplicit false

/-- The options in short, at the head of the help and of every refusal. -/
def usage : String :=
  "usage: ctypesgl-generator [-h] [--gl-xml GL_XML] [--download] [--force]\n" ++
  "                          [--output-dir OUTPUT_DIR] [--profile PROFILE]\n" ++
  "                          [--isolated] [--no-error-check] [--no-timestamp]\n"

def help : String := usage ++ "\n" ++
  "Generate ctypes OpenGL bindings\n" ++
  "\n" ++
  "options:\n" ++
  "  -h, --help            show this help message and exit\n" ++
  "  --gl-xml GL_XML       Path to gl.xml file\n" ++
  "  --download            Download latest gl.xml from Khronos registry\n" ++
  "  --force               Force re-download of gl.xml\n" ++
  "  --output-dir OUTPUT_DIR\n" ++
  "                        Output directory for generated packages\n" ++
  "  --profile PROFILE     OpenGL profile to generate (default: core)\n" ++
  "  --isolated            Give every version module its own function pointers\n" ++
  "                        instead of sharing one interop table per API family\n" ++
  "  --no-error-check      Leave loader error checks out of the generated code\n" ++
  "  --no-timestamp        Omit the generation time from file headers\n"

/-- What is shown when arguments are refused. -/
def UsageError.report (error : UsageError) : String :=
  usage ++ "ctypesgl-generator: error: " ++ error.message ++ "\n"

end GLBindings.CommandLine
