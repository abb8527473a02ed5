import Postal.Builtin.Build

namespace Postal.Builtin

namespace Labels

def german : Json :=
  texts
    [("City", "Ort"), ("Country", "Land"), ("District", "Bezirk"),
     ("Postal Code", "Postleitzahl"), ("Prefecture", "Präfektur"), ("Province", "Provinz"),
     ("State", "Bundesstaat"), ("Street Address", "Straße und Hausnummer"),
     ("Zip Code", "Postleitzahl")]

def spanish : Json :=
  texts
    [("City", "Ciudad"), ("Country", "País"), ("District", "Distrito"),
     ("Postal Code", "Código postal"), ("Prefecture", "Prefectura"), ("Province", "Provincia"),
     ("State", "Estado"), ("Street Address", "Dirección"), ("Zip Code", "Código postal")]

def byLanguage : List (String × Json) :=
  [("de", german), ("es", spanish)]

end Labels

namespace Regions

def english : Json :=
  .object
    [("CA",
      choiceList
        [("AB", "Alberta"), ("BC", "British Columbia"), ("MB", "Manitoba"),
         ("NB", "New Brunswick"), ("NL", "Newfoundland and Labrador"), ("NS", "Nova Scotia"),
         ("NT", "Northwest Territories"), ("NU", "Nunavut"), ("ON", "Ontario"),
         ("PE", "Prince Edward Island"), ("QC", "Quebec"), ("SK", "Saskatchewan"),
         ("YT", "Yukon")]),
     ("US",
      choiceList
        [("AL", "Alabama"), ("AK", "Alaska"), ("AZ", "Arizona"), ("AR", "Arkansas"),
         ("CA", "California"), ("CO", "Colorado"), ("CT", "Connecticut"), ("DE", "Delaware"),
         ("DC", "District of Columbia"), ("FL", "Florida"), ("GA", "Georgia"), ("HI", "Hawaii"),
         ("ID", "Idaho"), ("IL", "Illinois"), ("IN", "Indiana"), ("IA", "Iowa"),
         ("KS", "Kansas"), ("KY", "Kentucky"), ("LA", "Louisiana"), ("ME", "Maine"),
         ("MD", "Maryland"), ("MA", "Massachusetts"), ("MI", "Michigan"), ("MN", "Minnesota"),
         ("MS", "Mississippi"), ("MO", "Missouri"), ("MT", "Montana"), ("NE", "Nebraska"),
         ("NV", "Nevada"), ("NH", "New Hampshire"), ("NJ", "New Jersey"), ("NM", "New Mexico"),
         ("NY", "New York"), ("NC", "North Carolina"), ("ND", "North Dakota"), ("OH", "Ohio"),
         ("OK", "Oklahoma"), ("OR", "Oregon"), ("PA", "Pennsylvania"), ("PR", "Puerto Rico"),
         ("RI", "Rhode Island"), ("SC", "South Carolina"), ("SD", "South Dakota"),
         ("TN", "Tennessee"), ("TX", "Texas"), ("UT", "Utah"), ("VT", "Vermont"),
         ("VA", "Virginia"), ("WA", "Washington"), ("WV", "West Virginia"), ("WI", "Wisconsin"),
         ("WY", "Wyoming")])]

def spanish : Json :=
  .object
    [("CA",
      choiceList
        [("AB", "Alberta"), ("BC", "Columbia Británica"), ("MB", "Manitoba"),
         ("NB", "Nuevo Brunswick"), ("NL", "Terranova y Labrador"), ("NS", "Nueva Escocia"),
         ("NT", "Territorios del Noroeste"), ("NU", "Nunavut"), ("ON", "Ontario"),
         ("PE", "Isla del Príncipe Eduardo"), ("QC", "Quebec"), ("SK", "Saskatchewan"),
         ("YT", "Yukon")]),
     ("US",
      choiceList
        [("AL", "Alabama"), ("AK", "Alaska"), ("AZ", "Arizona"), ("AR", "Arkansas"),
         ("CA", "California"), ("CO", "Colorado"), ("CT", "Connecticut"), ("DE", "Delaware"),
         ("DC", "Distrito de Columbia"), ("FL", "Florida"), ("GA", "Georgia"), ("HI", "Hawái"),
         ("ID", "Idaho"), ("IL", "Illinois"), ("IN", "Indiana"), ("IA", "Iowa"),
         ("KS", "Kansas"), ("KY", "Kentucky"), ("LA", "Luisiana"), ("ME", "Maine"),
         ("MD", "Maryland"), ("MA", "Massachusetts"), ("MI", "Míchigan"), ("MN", "Minnesota"),
         ("MS", "Misisipi"), ("MO", "Misuri"), ("MT", "Montana"), ("NE", "Nebraska"),
         ("NV", "Nevada"), ("NH", "Nuevo Hampshire"), ("NJ", "Nueva Jersey"),
         ("NM", "Nuevo México"), ("NY", "Nueva York"), ("NC", "Carolina del Norte"),
         ("ND", "Dakota del Norte"), ("OH", "Ohio"), ("OK", "Oklahoma"), ("OR", "Oregón"),
         ("PA", "Pensilvania"), ("PR", "Puerto Rico"), ("RI", "Rhode Island"),
         ("SC", "Carolina del Sur"), ("SD", "Dakota del Sur"), ("TN", "Tennessee"),
         ("TX", "Texas"), ("UT", "Utah"), ("VT", "Vermont"), ("VA", "Virginia"),
         ("WA", "Washington"), ("WV", "Virginia Occidental"), ("WI", "Wisconsin"),
         ("WY", "Wyoming")])]

def byLanguage : List (String × Json) :=
  [("en", english), ("es", spanish)]

end Regions

end Postal.Builtin
