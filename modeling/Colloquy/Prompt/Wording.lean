/-!
# Wording of prompts

The texts that tell the model what to write. Each is a function of the parts that vary.
-/

set_option autoImplicit false

namespace Colloquy.Prompt

def lines (texts : List String) : String := "\n".intercalate texts

def roleInstructions (role : String) : String :=
  match role with
  | "user" => "You are generating a user message - not an assistant or system message."
  | "assistant" => "You are generating an assistant message - not a user or system message."
  | "system" => "You are generating a system message - not a user or assistant message."
  | _ => ""

def flowExplanation : String := lines [
  "## Understanding the Conversation Flow",
  "Below you'll see the complete conversation flow. Each item is EITHER:",
  "- An actual generated message (already created) - use this as concrete context",
  "- A schema/structure definition (not yet generated) - use this to understand what's " ++
    "planned next",
  ""]

def messageSystem (role flow tools : String) : String := lines [
  "You are a synthetic dataset generator creating realistic conversation data.",
  "",
  "## Your Task",
  "Generate a new " ++ role ++
    " message to continue the conversation naturally and contextually.",
  roleInstructions role,
  "",
  flowExplanation,
  "**IMPORTANT: The message with \"CURRENTLY_GENERATING: true\" is what YOU need to generate " ++
    "now.**",
  "",
  "Generate it based on:",
  "1. All previous actual messages (for context and continuity)",
  "2. The schema/prompt of the current message (for guidance on content)",
  "3. Future structure definitions (to ensure the conversation flows naturally toward those goals)",
  "",
  "Messages and structure:",
  flow,
  "",
  "Available tools:",
  tools,
  ""]

def messageUser (role prompt : String) : String := lines [
  "Generate the " ++ role ++
    " message marked with \"CURRENTLY_GENERATING: true\" based on this prompt:",
  "",
  prompt,
  "",
  "Important:",
  "- Maintain continuity with previous messages and align with the planned conversation flow",
  "- Only generate the message content, do not include any meta-commentary or explanation"]

def argumentsSystem (tool description flow extra : String) : String := lines [
  "You are a tool call arguments generator creating realistic conversation data.",
  "",
  "## Your Task",
  "Generate realistic, contextually appropriate arguments that match the tool's parameter " ++
    "schema in JSON format.",
  "Make sure the parameters match the user's latest request and fit naturally within the " ++
    "conversation flow.",
  "",
  flowExplanation,
  "**IMPORTANT: The message with \"CURRENTLY_GENERATING: true\" is what YOU need to generate " ++
    "arguments for.**",
  "",
  "Tool: " ++ tool ++ " - " ++ description,
  "",
  "Messages and structure:",
  flow,
  "",
  extra]

def argumentsUser (schema : String) : String := lines [
  "## Generate tool call arguments for the message marked with \"CURRENTLY_GENERATING: true\"",
  "",
  "Keep the conversation context in mind - your arguments should flow naturally from what was " ++
    "said before and support what comes after.",
  "",
  "Return a JSON object that matches the following schema:",
  schema]

def resultSystem (tool description flow arguments extra : String) : String := lines [
  "You are a tool result generator creating realistic conversation data.",
  "",
  "## Your Task",
  "Generate a realistic result for the tool call that matches the result schema in JSON format.",
  "",
  "## Important Note on Truth",
  "Generated responses do not need to be real or accurate. They can be made up. Act as if you " ++
    "know the truth even if you don't.",
  "The goal is to create realistic-looking data that fits the conversation flow.",
  "",
  flowExplanation,
  "**IMPORTANT: The message with \"CURRENTLY_GENERATING: true\" is what YOU need to generate a " ++
    "result for.**",
  "",
  "Tool: " ++ tool ++ " - " ++ description,
  "",
  "Messages and structure:",
  flow,
  "",
  "## Tool Call Arguments",
  arguments,
  "",
  extra]

def resultUser (schema : String) : String := lines [
  "## Generate tool result for the message marked with \"CURRENTLY_GENERATING: true\"",
  "",
  "Keep the conversation context in mind - your result should be consistent with the tool call " ++
    "arguments and enable the conversation to progress naturally toward planned future messages.",
  "",
  "Return a JSON object that matches the following schema:",
  schema]

end Colloquy.Prompt
