import Remedy.Service.Basic

/-!
# A first question to a model

One question that tells whether a hosted model answers at all. The answer is printed as it comes.
-/

namespace Remedy.Trial

/-- What the question says before the issue. -/
def firstOpening : String :=
  Text.join "\n"
    ["",
     "You are an excellent enterprise architect who has an extensive background in",
     "helping companies rewrite their legacy Java EE applications to Quarkus.",
     "",
     "You will read a user's problem along with examples of how they have solved a",
     "problem in the past. The past examples will be presented in format of a summary",
     "of the issue along with source code of that point in time along with the updated",
     "source code when the problem is fixed",
     "",
     "You will then write Quarkus code to solve their current problem. You will output",
     "the results in the form a diff which can be applied via 'git apply'.",
     "",
     "Your job is to look at the 'Current Issue' and the 'Current Issue Original",
     "Source Code' and rewrite the 'Current Issue Original Source Code' so the",
     "'Current Issue' is solved. You will not have an example to go off of, so please",
     "be as accurate as possible.",
     "",
     "Think through the changes you will make and explain each step of the process. If",
     "you are unsure of what changes is needed please state you are unsure and ask for",
     "clarification to help you.",
     "",
     "When you are done explaining the reasoning for each change, write the updated",
     "Quarkus source code in the form of a diff which can be applied via 'git apply'",
     "in Markdown format, e.g.:",
     "",
     "```diff",
     "....",
     "```",
     "",
     "Current Issue: ",
     ""]

/-- The issue that the question is about. -/
def firstIssue : String :=
  "MDBs work completely differently in Quarkus. Do not use JMS, use Quarkus reactive messaging. " ++
    "Use JakartaEE 9 instead of javax libraries."

/-- The code that the question is about. -/
def firstCode : String :=
  Text.join "\n"
    ["",
     "package org.jboss.as.quickstarts.servlet;",
     "",
     "import java.io.IOException;",
     "import java.io.PrintWriter;",
     "",
     "import javax.annotation.Resource;",
     "import javax.inject.Inject;",
     "import javax.jms.Destination;",
     "import javax.jms.JMSContext;",
     "import javax.jms.JMSDestinationDefinition;",
     "import javax.jms.JMSDestinationDefinitions;",
     "import javax.jms.Queue;",
     "import javax.jms.Topic;",
     "import javax.servlet.ServletException;",
     "import javax.servlet.annotation.WebServlet;",
     "import javax.servlet.http.HttpServlet;",
     "import javax.servlet.http.HttpServletRequest;",
     "import javax.servlet.http.HttpServletResponse;",
     "",
     "/**",
     " * Definition of the two JMS destinations used by the quickstart",
     " * (one queue and one topic).",
     " */",
     "@JMSDestinationDefinitions(",
     "    value = \x7b",
     "        @JMSDestinationDefinition(",
     "            name = \"java:/queue/HELLOWORLDMDBQueue\",",
     "            interfaceName = \"javax.jms.Queue\",",
     "            destinationName = \"HelloWorldMDBQueue\"",
     "        ),",
     "        @JMSDestinationDefinition(",
     "            name = \"java:/topic/HELLOWORLDMDBTopic\",",
     "            interfaceName = \"javax.jms.Topic\",",
     "            destinationName = \"HelloWorldMDBTopic\"",
     "        )",
     "    \x7d",
     ")",
     "",
     "/**",
     " * <p>",
     " * A simple servlet 3 as client that sends several messages to a queue or a topic.",
     " * </p>",
     " *",
     " * <p>",
     " * The servlet is registered and mapped to /HelloWorldMDBServletClient using the \x7b@linkplain WebServlet",
     " * @HttpServlet\x7d.",
     " * </p>",
     " *",
     " * @author Serge Pagop (spagop@redhat.com)",
     " *",
     " */",
     "@WebServlet(\"/HelloWorldMDBServletClient\")",
     "public class HelloWorldMDBServletClient extends HttpServlet \x7b",
     "",
     "    private static final long serialVersionUID = -8314035702649252239L;",
     "",
     "    private static final int MSG_COUNT = 5;",
     "",
     "    @Inject",
     "    private JMSContext context;",
     "",
     "    @Resource(lookup = \"java:/queue/HELLOWORLDMDBQueue\")",
     "    private Queue queue;",
     "",
     "    @Resource(lookup = \"java:/topic/HELLOWORLDMDBTopic\")",
     "    private Topic topic;",
     "",
     "    @Override",
     "    protected void doGet(HttpServletRequest req, HttpServletResponse resp) throws ServletException, IOException \x7b",
     "        resp.setContentType(\"text/html\");",
     "        PrintWriter out = resp.getWriter();",
     "        out.write(\"<h1>Quickstart: Example demonstrates the use of <strong>JMS 2.0</strong> and <strong>EJB 3.2 Message-Driven Bean</strong> in JBoss EAP.</h1>\");",
     "        try \x7b",
     "            boolean useTopic = req.getParameterMap().keySet().contains(\"topic\");",
     "            final Destination destination = useTopic ? topic : queue;",
     "",
     "            out.write(\"<p>Sending messages to <em>\" + destination + \"</em></p>\");",
     "            out.write(\"<h2>The following messages will be sent to the destination:</h2>\");",
     "            for (int i = 0; i < MSG_COUNT; i++) \x7b",
     "                String text = \"This is message \" + (i + 1);",
     "                context.createProducer().send(destination, text);",
     "                out.write(\"Message (\" + i + \"): \" + text + \"</br>\");",
     "            \x7d",
     "            out.write(\"<p><i>Go to your JBoss EAP server console or server log to see the result of messages processing.</i></p>\");",
     "        \x7d finally \x7b",
     "            if (out != null) \x7b",
     "                out.close();",
     "            \x7d",
     "        \x7d",
     "    \x7d",
     "",
     "    protected void doPost(HttpServletRequest req, HttpServletResponse resp) throws ServletException, IOException \x7b",
     "        doGet(req, resp);",
     "    \x7d",
     "\x7d",
     ""]

/-- What the question says between the issue and the code. -/
def firstBetween : String :=
  Text.join "\n"
    ["",
     "",
     "Current Issue Original Source Code: ",
     "```java",
     ""]

/-- What the question says after the code. -/
def firstEnd : String := "
```
"

/-- The question. -/
def firstQuestion : String :=
  firstOpening ++ firstIssue ++ firstBetween ++ firstCode ++ firstEnd

/-- How the model is set up: its answer comes in pieces. -/
def firstArgs : Fields := [("streaming", .bool true)]

/-- Asks the question and prints the answer. -/
def askFirst : Action Service Unit := do
  let answer ← Service.ask firstQuestion
  Service.onHost (Host.print answer)

end Remedy.Trial
